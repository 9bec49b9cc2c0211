import DistanceField.Vec2

/-!
# Shader expressions

The expressions of a generated shader function. A literal keeps the number that it is printed from,
so an expression has a value apart from its text. Variables are told apart by the part they play for
a node; their names are made from the node's identifier.
-/

namespace DistanceField.Shader

/-- The functions that a generated expression may call. -/
inductive Function where
  | circle
  | box
  | capsule
  | smoothUnion
  | smoothSubtraction
  | smoothIntersection
  | exclusive
  | rotate
  | tile
  | mirror
  | bend
  | twist
  | vec2
  | min
  | max
  | abs
  | sin
  | clamp
  deriving DecidableEq

def Function.name : Function → String
  | .circle => "sdCircle"
  | .box => "sdBox"
  | .capsule => "sdCapsule"
  | .smoothUnion => "opSmoothUnion"
  | .smoothSubtraction => "opSmoothSubtraction"
  | .smoothIntersection => "opSmoothIntersection"
  | .exclusive => "opXor"
  | .rotate => "rotate"
  | .tile => "opRepeat"
  | .mirror => "opMirror"
  | .bend => "opBend"
  | .twist => "opTwist"
  | .vec2 => "vec2"
  | .min => "min"
  | .max => "max"
  | .abs => "abs"
  | .sin => "sin"
  | .clamp => "clamp"

/-- The functions that are not built into the shader language. -/
def Function.helpers : List Function :=
  [.circle, .box, .capsule, .smoothUnion, .smoothSubtraction, .smoothIntersection, .exclusive,
    .rotate, .tile, .mirror, .bend, .twist]

/-- The variables of a generated function. `input` is the point that it is given, and the others are
of a node. A fold has one for each `step`, and a subtraction one for the nearest `cutter` so far. -/
inductive Variable where
  | input
  | point (id : String)
  | distance (id : String)
  | displaced (id : String)
  | result (id : String)
  | step (id : String) (i : Nat)
  | cutter (id : String) (i : Nat)
  deriving DecidableEq

def Variable.name : Variable → String
  | .input => "p"
  | .point id => "p_" ++ id
  | .distance id => "d_" ++ id
  | .displaced id => "mod_" ++ id
  | .result id => "res_" ++ id
  | .step id i => "tmp_" ++ id ++ "_" ++ Nat.repr i
  | .cutter id i => "cut_" ++ id ++ "_" ++ Nat.repr i

/-- An identifier as part of a name: everything but ASCII letters and digits becomes `_`. -/
def sanitize (id : String) : String :=
  id.map fun c => if c.isAlphanum then c else '_'

/-- An expression. A number is printed with a number of places. -/
inductive Expr (α : Type) where
  | var (v : Variable)
  | number (places : Nat) (value : α)
  | flag (value : Bool)
  | coordinate (axis : Axis) (e : Expr α)
  | neg (e : Expr α)
  | add (a b : Expr α)
  | sub (a b : Expr α)
  | mul (a b : Expr α)
  | call (f : Function) (args : List (Expr α))

/-- Numbers that can be printed with a fixed number of places. -/
class FixedText (α : Type) where
  fixed : Nat → α → String

/-- A text, in parentheses if they are needed. -/
def parenthesize (needed : Bool) (text : String) : String :=
  if needed then "(" ++ text ++ ")" else text

/-- Texts with commas between them. -/
def commas : List String → String
  | [] => ""
  | [text] => text
  | text :: rest => text ++ ", " ++ commas rest

namespace Expr

variable {α : Type} [FixedText α]

mutual

/-- The text of an expression where at least a level of precedence is asked for: 0 for sums, 1 for
products, 2 for signed operands and 3 for anything that needs no parentheses. -/
def render : Nat → Expr α → String
  | _, .var v => v.name
  | _, .number places value => FixedText.fixed places value
  | _, .flag true => "true"
  | _, .flag false => "false"
  | _, .coordinate axis e => render 3 e ++ "." ++ axis.name
  | level, .neg e => parenthesize (2 < level) ("-" ++ render 3 e)
  | level, .add a b => parenthesize (0 < level) (render 0 a ++ " + " ++ render 1 b)
  | level, .sub a b => parenthesize (0 < level) (render 0 a ++ " - " ++ render 1 b)
  | level, .mul a b => parenthesize (1 < level) (render 1 a ++ " * " ++ render 2 b)
  | _, .call f args => f.name ++ "(" ++ commas (renderList args) ++ ")"

/-- The texts of a list of arguments. -/
def renderList : List (Expr α) → List String
  | [] => []
  | e :: rest => render 0 e :: renderList rest

end

/-- The text of an expression. -/
def text (e : Expr α) : String := e.render 0

end Expr

end DistanceField.Shader
