import DistanceField.Node.Basic
import DistanceField.Text.Quoted

/-!
# Well-formed trees

Identifiers are not empty and occur once, and a displacement has at most a base and a source. The
first defect in preorder is reported.
-/

namespace DistanceField

/-- A defect of a tree. A node without an identifier is named by its parent. -/
inductive Defect where
  | emptyId (parent : Option String)
  | duplicateId (id : String)
  | displaceOverflow (id : String) (count : Nat)
  deriving DecidableEq

/-- The most children that a displacement uses: a base and a source. -/
def displaceLimit : Nat := 2

/-- A parent in words. -/
def Defect.parentText : Option String → String
  | none => "None"
  | some id => "Some(" ++ Text.quoted id ++ ")"

/-- The defect in words. -/
def Defect.message : Defect → String
  | .emptyId parent => "Node with empty id (parent: " ++ parentText parent ++ ")"
  | .duplicateId id => "Duplicate node id: " ++ id
  | .displaceOverflow id count =>
    "Displace node " ++ id ++ " has " ++ Nat.repr count ++ " children (max " ++
      Nat.repr displaceLimit ++ ")"

namespace Node

variable {α : Type}

/-- The defect of a node, given its parent and the identifiers before it. -/
def defect? (parent : Option String) (seen : List String) (n : Node α) : Option Defect :=
  if n.id = "" then some (.emptyId parent)
  else if n.id ∈ seen then some (.duplicateId n.id)
  else if n.kind = .op .displace ∧ displaceLimit < n.children.length then
    some (.displaceOverflow n.id n.children.length)
  else none

mutual

/-- Check a tree; the identifiers seen so far are handed on. -/
def check (parent : Option String) (seen : List String) : Node α → Except Defect (List String)
  | .primitive info body =>
    match (Node.primitive info body).defect? parent seen with
    | some defect => .error defect
    | none => .ok (info.id :: seen)
  | .operation info op children =>
    match (Node.operation info op children).defect? parent seen with
    | some defect => .error defect
    | none => checkList info.id (info.id :: seen) children

/-- Check the trees below a node in order. -/
def checkList (parent : String) (seen : List String) : List (Node α) → Except Defect (List String)
  | [] => .ok seen
  | n :: rest =>
    match n.check (some parent) seen with
    | .error defect => .error defect
    | .ok seen => checkList parent seen rest

end

/-- The first defect of a tree, if it has any. -/
def validate (tree : Node α) : Except Defect Unit :=
  match tree.check none [] with
  | .error defect => .error defect
  | .ok _ => .ok ()

end Node

end DistanceField
