import DistanceField.Node.Build
import DistanceField.Node.Replace
import DistanceField.Node.Validate

/-!
# Edits of a tree

An edit finds its place by identifiers. It gives a new tree, or nothing when it is rejected: when
its target is missing, or when it would put a child where none may go. A basic shape takes no
children, and a displacement at most two.
-/

namespace DistanceField

/-- Where a node is put: beside a target, or inside of it as the last child. -/
inductive Place where
  | before
  | after
  | inside
  deriving DecidableEq

/-- Which neighbour a node is exchanged with. -/
inductive Direction where
  | up
  | down
  deriving DecidableEq

namespace Node

variable {α : Type}

/-- Whether a node may take one more child. -/
def acceptsChild : Node α → Bool
  | .primitive _ _ => false
  | .operation _ op children => op.kind ≠ .displace || children.length < displaceLimit

def update? (tree : Node α) (id : String) (f : Node α → Node α) : Option (Node α) :=
  tree.replaceFirst? (·.id == id) f

/-! ### Removing and inserting -/

/-- Remove the children with an identifier from the first node that has any. -/
def remove? (tree : Node α) (id : String) : Option (Node α) :=
  tree.replaceFirst? (·.hasChild id) (mapChildren (·.filter (·.id != id)))

/-- Put a node beside the first one with an identifier. -/
def insertBeside (id : String) (node : Node α) (after : Bool) : List (Node α) → List (Node α)
  | [] => []
  | n :: rest =>
    if n.id = id then if after then n :: node :: rest else node :: n :: rest
    else n :: insertBeside id node after rest

/-- Put a node beside the node with an identifier. -/
def insertBeside? (tree : Node α) (id : String) (node : Node α) (after : Bool) :
    Option (Node α) :=
  if (tree.findParent? id).any acceptsChild then
    tree.replaceFirst? (·.hasChild id) (mapChildren (insertBeside id node after))
  else none

/-- Make a node the last child of the node with an identifier. -/
def insertInside? (tree : Node α) (id : String) (node : Node α) : Option (Node α) :=
  if (tree.find? id).any acceptsChild then
    tree.update? id (mapChildren (· ++ [node]))
  else none

/-- Put a node at a place relative to the node with an identifier. -/
def insert? (tree : Node α) (id : String) (node : Node α) (place : Place) : Option (Node α) :=
  match place with
  | .before => tree.insertBeside? id node false
  | .after => tree.insertBeside? id node true
  | .inside => tree.insertInside? id node

/-- Put an operation in the place of the node with an identifier, which becomes its only child. -/
def wrap? (tree : Node α) (id : String) (wrapper : Node α) : Option (Node α) :=
  tree.update? id fun n => wrapper.withChildren [n]

/-! ### Moving -/

/-- Move a node to a place relative to another one, which must not lie below it. An operation that
is put inside a basic shape wraps it instead, and loses its own children. -/
def move? (tree : Node α) (id target : String) (place : Place) : Option (Node α) := do
  guard (id ≠ target)
  let dragged ← tree.find? id
  let goal ← tree.find? target
  guard (dragged.find? target).isNone
  guard (tree.id ≠ id)
  let base := (tree.remove? id).getD tree
  if place = .inside ∧ goal.isPrimitive ∧ ¬ dragged.isPrimitive then base.wrap? target dragged
  else base.insert? target dragged place

/-- A list with two entries exchanged. -/
def exchange (i j : Nat) (ns : List (Node α)) : List (Node α) :=
  match ns[i]?, ns[j]? with
  | some a, some b => (ns.set i b).set j a
  | _, _ => ns

/-- Exchange two children of the node with an identifier. -/
def swapChildren? (tree : Node α) (id : String) (i j : Nat) : Option (Node α) :=
  let inRange (n : Node α) : Bool :=
    i ≠ j && i < n.children.length && j < n.children.length
  if (tree.find? id).any inRange then tree.update? id (mapChildren (exchange i j)) else none

/-- The place of the first child with an identifier. -/
def childIndex? (n : Node α) (id : String) : Option Nat :=
  n.children.findIdx? (·.id == id)

/-- Exchange a node with a neighbour. -/
def reorder? (tree : Node α) (id : String) (direction : Direction) : Option (Node α) := do
  let parent ← tree.findParent? id
  let i ← parent.childIndex? id
  match direction, i with
  | .up, 0 => none
  | .up, i + 1 => tree.swapChildren? parent.id (i + 1) i
  | .down, i => tree.swapChildren? parent.id i (i + 1)

/-! ### Other edits -/

/-- The operation with another kind. A name that is unset, or still the label of the old kind,
becomes the label of the new one. -/
def withKind (kind : OpKind) (n : Node α) : Node α :=
  let info := n.info
  let relabelled := info.name = none ∨ info.name = some n.kind.label
  let name := if relabelled then some (Kind.op kind).label else info.name
  (n.mapOperator ({ · with kind })).withName name

/-- Change the kind of the operation with an identifier. -/
def setKind? (tree : Node α) (id : String) (kind : OpKind) : Option (Node α) :=
  if (tree.find? id).any (! ·.isPrimitive) then tree.update? id (withKind kind) else none

mutual

/-- Unfold the nodes above the first node with an identifier; nothing if there is no such node. -/
def expandTo? (id : String) : Node α → Option (Node α)
  | .primitive info body => if info.id = id then some (.primitive info body) else none
  | .operation info op children =>
    if info.id = id then some (.operation info op children)
    else (expandIn? id children).map (.operation { info with collapsed := false } op ·)

/-- Unfold the nodes above the first node with an identifier, in a list of trees. -/
def expandIn? (id : String) : List (Node α) → Option (List (Node α))
  | [] => none
  | n :: rest =>
    match n.expandTo? id with
    | some new => some (new :: rest)
    | none => (expandIn? id rest).map (n :: ·)

end

/-- Unfold the nodes above the first node with an identifier. If that is the root there are none,
and the walk hands back the very tree that it was given, which counts as no change. -/
def expandAncestors? (tree : Node α) (id : String) : Option (Node α) :=
  if tree.id = id then none else tree.expandTo? id

variable [Scalar α]

/-- A union of two trees, as an editor creates it. -/
def unite (id : String) (a b : Node α) : Node α :=
  (create (.op .union) id .zero).withChildren [a, b]

/-- Add a node to a tree, next to what is selected. Without a selection the tree and the node are
united. An operation wraps a selected shape. Otherwise the node goes into the selection or, if that
takes no child, into its parent. -/
def add? (tree : Node α) (selected : Option String) (node : Node α) (unionId : String) :
    Option (Node α) :=
  match selected.bind (tree.find? ·) with
  | none => some (unite unionId tree node)
  | some goal =>
    if goal.isPrimitive ∧ ¬ node.isPrimitive then tree.wrap? goal.id node
    else if goal.acceptsChild then tree.insertInside? goal.id node
    else do tree.insertInside? (← tree.findParent? goal.id).id node

end Node

end DistanceField
