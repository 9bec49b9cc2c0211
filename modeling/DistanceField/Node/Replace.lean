import DistanceField.Node.Find

/-!
# Replacing the first node that fits

Every edit changes one node of a tree and the path to it. `Node.replaceFirst?` is that step: it
replaces the first node in preorder that fits and gives nothing if no node does.
-/

namespace DistanceField.Node

variable {α : Type}

mutual

/-- Replace the first node that fits. -/
def replaceFirst? (p : Node α → Bool) (f : Node α → Node α) : Node α → Option (Node α)
  | .primitive info body =>
    let n := Node.primitive info body
    if p n then some (f n) else none
  | .operation info op children =>
    let n := Node.operation info op children
    if p n then some (f n) else (replaceFirstIn? p f children).map (.operation info op ·)

/-- Replace the first node that fits in a list of trees. -/
def replaceFirstIn? (p : Node α → Bool) (f : Node α → Node α) :
    List (Node α) → Option (List (Node α))
  | [] => none
  | n :: rest =>
    match n.replaceFirst? p f with
    | some new => some (new :: rest)
    | none => (replaceFirstIn? p f rest).map (n :: ·)

end

end DistanceField.Node
