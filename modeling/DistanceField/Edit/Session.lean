import DistanceField.Edit.Basic

/-!
# Editing sessions

A session holds the current tree, if there is one, and all earlier ones. A rejected edit keeps the
current version; any other makes a new version, even when the new tree equals the old one. An
earlier version can be made current again.
-/

namespace DistanceField

/-- An edit. It finds the nodes that it works on by their identifiers. A node that is added goes
next to a selection, or under a new union. -/
inductive Edit (α : Type) where
  | update (id : String) (f : Node α → Node α)
  | delete (id : String)
  | insert (target : String) (node : Node α) (place : Place)
  | move (id target : String) (place : Place)
  | reorder (id : String) (direction : Direction)
  | swap (id : String) (i j : Nat)
  | setKind (id : String) (kind : OpKind)
  | expand (id : String)
  | add (selected : Option String) (node : Node α) (unionId : String)

/-- What an edit did. If it was not rejected there is a new tree or none at all. -/
inductive Change (α : Type) where
  | rejected
  | emptied
  | replaced (tree : Node α)

/-- There is no tree to work on. -/
structure NoTree where

variable {α : Type}

namespace Change

/-- The change of an edit that gives a new tree or nothing. -/
def ofOption : Option (Node α) → Change α
  | none => .rejected
  | some tree => .replaced tree

def apply (scene : Option (Node α)) : Change α → Option (Node α)
  | .rejected => scene
  | .emptied => none
  | .replaced tree => some tree

end Change

/-- Remove the node with an identifier; removing the root leaves no tree. -/
def Node.delete (tree : Node α) (id : String) : Change α :=
  if tree.id = id then .emptied else .ofOption (tree.remove? id)

namespace Edit

variable [Scalar α]

/-- What an edit does to a tree. -/
def run (tree : Node α) : Edit α → Change α
  | .update id f => .ofOption (tree.update? id f)
  | .delete id => tree.delete id
  | .insert target node place => .ofOption (tree.insert? target node place)
  | .move id target place => .ofOption (tree.move? id target place)
  | .reorder id direction => .ofOption (tree.reorder? id direction)
  | .swap id i j => .ofOption (tree.swapChildren? id i j)
  | .setKind id kind => .ofOption (tree.setKind? id kind)
  | .expand id => .ofOption (tree.expandAncestors? id)
  | .add selected node unionId => .ofOption (tree.add? selected node unionId)

/-- What an edit does to a scene. Where there is no tree, only a node can be added. -/
def runScene (scene : Option (Node α)) (e : Edit α) : Except NoTree (Change α) :=
  match scene, e with
  | some tree, e => .ok (e.run tree)
  | none, .add _ node _ => .ok (.replaced node)
  | none, _ => .error {}

end Edit

/-- A scene with a number that no other version has. -/
structure Version (α : Type) where
  stamp : Nat
  scene : Option (Node α)

/-- The versions after each step: the current one, and the earlier ones from the latest back. -/
structure Session (α : Type) where
  current : Version α
  earlier : List (Version α)

namespace Session

/-- A session before its first step. -/
def start (scene : Option (Node α)) : Session α := ⟨⟨0, scene⟩, []⟩

def scene (s : Session α) : Option (Node α) := s.current.scene

def tree (s : Session α) : Except NoTree (Node α) :=
  match s.scene with
  | some tree => .ok tree
  | none => .error {}

/-- Make a version current. -/
def record (s : Session α) (v : Version α) : Session α := ⟨v, s.current :: s.earlier⟩

/-- A step that keeps the current version. -/
def hold (s : Session α) : Session α := s.record s.current

/-- A step with a change. -/
def change (s : Session α) (c : Change α) : Session α :=
  match c with
  | .rejected => s.hold
  | c => s.record ⟨s.earlier.length + 1, c.apply s.scene⟩

/-- A step that edits the scene. -/
def edit [Scalar α] (s : Session α) (e : Edit α) : Except NoTree (Session α) :=
  (e.runScene s.scene).map s.change

/-- The version after a number of steps. -/
def version? (s : Session α) (steps : Nat) : Option (Version α) :=
  (s.current :: s.earlier).reverse[steps]?

/-- A step that makes the version after a number of steps current again. -/
def restore (s : Session α) (steps : Nat) : Session α :=
  s.record ((s.version? steps).getD s.current)

/-- Whether the last step kept the version, or there was no tree before it and none after. -/
def isSame (s : Session α) : Bool :=
  match s.earlier with
  | [] => true
  | before :: _ =>
    before.stamp = s.current.stamp || before.scene.isNone && s.scene.isNone

end Session

end DistanceField
