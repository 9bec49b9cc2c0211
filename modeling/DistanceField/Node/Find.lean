import DistanceField.Catalog
import DistanceField.Node.Basic

/-!
# Finding nodes

Searches go through a tree in preorder and stop at the first node that fits. `Node.find?` looks for
a node itself, and `Node.ancestry` for the warps on the way to it.
-/

namespace DistanceField.Node

variable {α : Type}

mutual

/-- The first node that fits. -/
def findFirst? (p : Node α → Bool) : Node α → Option (Node α)
  | .primitive info body =>
    let n := Node.primitive info body
    if p n then some n else none
  | .operation info op children =>
    let n := Node.operation info op children
    if p n then some n else findFirstIn? p children

/-- The first node of a list of trees that fits. -/
def findFirstIn? (p : Node α → Bool) : List (Node α) → Option (Node α)
  | [] => none
  | n :: rest =>
    match n.findFirst? p with
    | some found => some found
    | none => findFirstIn? p rest

end

/-- The first node with an identifier. -/
def find? (tree : Node α) (id : String) : Option (Node α) :=
  tree.findFirst? (·.id == id)

/-- The first node that has a child with an identifier. -/
def findParent? (tree : Node α) (id : String) : Option (Node α) :=
  tree.findFirst? (·.hasChild id)

/-! ### Views for an editor -/

mutual

/-- Collect the basic shapes of a tree behind those that are collected already. -/
def collect (out : List (Node α)) : Node α → List (Node α)
  | .primitive info body => out ++ [.primitive info body]
  | .operation _ _ children => collectIn out children

def collectIn (out : List (Node α)) : List (Node α) → List (Node α)
  | [] => out
  | n :: rest => collectIn (n.collect out) rest

end

/-- The basic shapes of a scene, in preorder. -/
def primitives : Option (Node α) → List (Node α)
  | none => []
  | some tree => tree.collect []

/-- A node as an entry of a path: its catalog label and its identifier. -/
def pathEntry (n : Node α) : String :=
  n.kind.label ++ " (" ++ n.id ++ ")"

mutual

/-- Search for an identifier, with the warps above as a path: whether it is found, and the path
afterwards. -/
def trace (id : String) (path : List String) : Node α → Bool × List String
  | .primitive info _ => (info.id = id, path)
  | .operation info op children =>
    let n := Node.operation info op children
    if info.id = id then (true, path)
    else if n.category = .domain then
      let below := traceIn id (path ++ [n.pathEntry]) children
      -- a warp that does not lead to the identifier is taken off again
      if below.1 then below else (false, below.2.dropLast)
    else traceIn id path children

def traceIn (id : String) (path : List String) : List (Node α) → Bool × List String
  | [] => (false, path)
  | n :: rest =>
    let first := n.trace id path
    if first.1 then first else traceIn id first.2 rest

end

/-- The warps above the first node with an identifier, outermost first; none if there is no such
node. -/
def ancestry (tree : Node α) (id : String) : List String :=
  (tree.trace id []).2

end DistanceField.Node
