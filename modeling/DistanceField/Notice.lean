import DistanceField.Flat.Canonical
import DistanceField.Node.Validate
import DistanceField.Shader.Emit

/-!
# Notices

What the library has to say about its work, beside the result: how much was flattened or generated,
whether a fingerprint is the recorded one, and which children a displacement leaves out.
-/

namespace DistanceField

/-- Something to be noted. A golden fingerprint is a recorded one, and a displacement does not use
what follows its second child. -/
inductive Notice where
  | flattened (root : String) (count : Nat)
  | goldenKept (name : String)
  | goldenBroken (name expected actual : String)
  | generated (count : Nat) (result : String)
  | unusedChildren (id : String) (count : Nat)
  deriving DecidableEq

namespace Notice

/-- How urgent a notice is. -/
def level : Notice → String
  | .flattened _ _ | .goldenKept _ | .generated _ _ => "DEBUG"
  | .goldenBroken _ _ _ | .unusedChildren _ _ => "WARN"

/-- The notice in words. -/
def text : Notice → String
  | .flattened root count => "compiled IR: root=" ++ root ++ " nodes=" ++ Nat.repr count
  | .goldenKept name => "golden " ++ name ++ ": ok"
  | .goldenBroken name expected actual =>
    "golden " ++ name ++ ": expected " ++ expected ++ ", got " ++ actual
  | .generated count result =>
    "generated map(): " ++ Nat.repr count ++ " statements, result " ++ result
  | .unusedChildren id count =>
    "displace " ++ id ++ " has " ++ Nat.repr count ++ " children; only base and source are used"

/-- The notice with its level. -/
def line (n : Notice) : String := n.level ++ " " ++ n.text

variable {α : Type}

/-- The notices of flattening a scene. -/
def ofFlattening : Option (Node α) → List Notice
  | none => []
  | some tree => [.flattened tree.id tree.size]

/-- The notices of comparing a fingerprint. -/
def ofGolden (name : String) (scene : Option (Node α)) :
    Except GoldenMismatch String → List Notice
  | .ok _ => ofFlattening scene ++ [.goldenKept name]
  | .error e => ofFlattening scene ++ [.goldenBroken e.name e.expected e.actual]

mutual

/-- The displacements of the nodes that yield shader code, each before those below it, that have
more children than they use. -/
def ofNode : Node α → List Notice
  | .primitive _ _ => []
  | .operation info op children =>
    let below := ofNodes children
    if op.kind = .displace then
      let here := if displaceLimit < children.length
        then [.unusedChildren (Shader.sanitize info.id) children.length] else []
      here ++ (below.take displaceLimit).flatten
    else below.flatten

/-- The notices of a list of trees, apart. -/
def ofNodes : List (Node α) → List (List Notice)
  | [] => []
  | n :: rest => ofNode n :: ofNodes rest

end

/-- The notices of generating the program of a scene. -/
def ofProgram [Shader.FixedText α] (scene : Option (Node α)) (p : Shader.Program α) :
    List Notice :=
  (scene.map ofNode).getD [] ++ [.generated p.statements.length p.result.text]

end Notice

end DistanceField
