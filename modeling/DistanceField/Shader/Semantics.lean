import DistanceField.Blend
import DistanceField.Distance
import DistanceField.Shader.Program
import DistanceField.Warp

/-!
# Running shader programs

The meaning of a generated function: its statements run in order and bind names to values, and its
result is read at the end. A literal has the value that it was printed from. Running fails on a name
that is not bound, on a value of another type than is asked for, and on nothing else.

A name has one value at a time, whichever variable it was made for.
-/

namespace DistanceField.Shader

/-- The values of expressions. -/
inductive Value (α : Type) where
  | float (x : α)
  | vec2 (v : Vec2 α)
  | bool (b : Bool)

/-- The type of a value, if a variable can have it. -/
def Value.type? {α : Type} : Value α → Option ValueType
  | .float _ => some .float
  | .vec2 _ => some .vec2
  | .bool _ => none

/-- The values of the names that are bound. -/
def Env (α : Type) : Type := String → Option (Value α)

namespace Env

variable {α : Type}

/-- Only the sample point is bound. -/
def start (p : Vec2 α) : Env α := fun name =>
  if name = Variable.input.name then some (.vec2 p) else none

/-- Bind a name. -/
def bind (env : Env α) (name : String) (value : Value α) : Env α := fun other =>
  if other = name then some value else env other

@[simp]
theorem bind_self (env : Env α) (name : String) (value : Value α) :
    env.bind name value name = some value := by
  simp [bind]

@[simp]
theorem bind_of_ne (env : Env α) {name other : String} (value : Value α) (h : other ≠ name) :
    env.bind name value other = env other := by
  simp [bind, h]

end Env

variable {α : Type} [Scalar α]

/-- The axis that a flag stands for. -/
def axisOfFlag : Bool → Axis
  | true => .x
  | false => .y

/-- The value of a call. -/
def Function.apply? : Function → List (Value α) → Option (Value α)
  | .circle, [.vec2 p, .float r] => some (.float (Distance.circle p r))
  | .box, [.vec2 p, .vec2 b] => some (.float (Distance.box p b))
  | .capsule, [.vec2 p, .float h, .float r] => some (.float (Distance.capsule p h r))
  | .smoothUnion, [.float a, .float b, .float k] => some (.float (Blend.smoothUnion a b k))
  | .smoothSubtraction, [.float a, .float b, .float k] =>
    some (.float (Blend.smoothSubtraction a b k))
  | .smoothIntersection, [.float a, .float b, .float k] =>
    some (.float (Blend.smoothIntersection a b k))
  | .exclusive, [.float a, .float b] => some (.float (Blend.exclusive a b))
  | .rotate, [.vec2 p, .float a] => some (.vec2 (p.rotate a))
  | .tile, [.vec2 p, .vec2 period] => some (.vec2 (p.tile period))
  | .mirror, [.vec2 p, .float offset, .bool isX] => some (.vec2 (p.mirror offset (axisOfFlag isX)))
  | .bend, [.vec2 p, .float k, .bool isX] => some (.vec2 (p.bend k (axisOfFlag isX)))
  | .twist, [.vec2 p, .float k] => some (.vec2 (p.twist k))
  | .vec2, [.float x, .float y] => some (.vec2 ⟨x, y⟩)
  | .min, [.float a, .float b] => some (.float (Scalar.min a b))
  | .max, [.float a, .float b] => some (.float (Scalar.max a b))
  | .abs, [.float a] => some (.float (Scalar.abs a))
  | .sin, [.float a] => some (.float (Scalar.sin a))
  | .clamp, [.float x, .float lo, .float hi] => some (.float (Scalar.clamp x lo hi))
  | _, _ => none

/-! ### Operators -/

namespace Value

/-- The opposite of a number. -/
def neg? : Value α → Option (Value α)
  | .float a => some (.float (-a))
  | _ => none

/-- The sum of two numbers. -/
def add? : Value α → Value α → Option (Value α)
  | .float a, .float b => some (.float (a + b))
  | _, _ => none

/-- The difference of two numbers or of two points. -/
def sub? : Value α → Value α → Option (Value α)
  | .float a, .float b => some (.float (a - b))
  | .vec2 a, .vec2 b => some (.vec2 (a - b))
  | _, _ => none

/-- The product of two numbers. -/
def mul? : Value α → Value α → Option (Value α)
  | .float a, .float b => some (.float (a * b))
  | _, _ => none

omit [Scalar α] in
/-- A coordinate of a point. -/
def coordinate? (axis : Axis) : Value α → Option (Value α)
  | .vec2 v => some (.float (v.along axis))
  | _ => none

end Value

/-! ### Expressions and statements -/

namespace Expr

mutual

/-- The value of an expression. -/
def eval? (env : Env α) : Expr α → Option (Value α)
  | .var v => env v.name
  | .number _ value => some (.float value)
  | .flag value => some (.bool value)
  | .coordinate axis e => do (← e.eval? env).coordinate? axis
  | .neg e => do (← e.eval? env).neg?
  | .add a b => do (← a.eval? env).add? (← b.eval? env)
  | .sub a b => do (← a.eval? env).sub? (← b.eval? env)
  | .mul a b => do (← a.eval? env).mul? (← b.eval? env)
  | .call f args => do f.apply? (← evalList? env args)

/-- The values of a list of arguments. -/
def evalList? (env : Env α) : List (Expr α) → Option (List (Value α))
  | [] => some []
  | e :: rest => do return (← e.eval? env) :: (← evalList? env rest)

end

end Expr

namespace Statement

/-- The names that are bound after a statement. A declaration gives its name a value of the declared
type, and an assignment a value of the type that the name has already. -/
def run? (env : Env α) : Statement α → Option (Env α)
  | .declare type target value => do
    let v ← value.eval? env
    guard (v.type? = some type)
    return env.bind target.name v
  | .assign target value => do
    let v ← value.eval? env
    let old ← env target.name
    guard (v.type?.isSome ∧ v.type? = old.type?)
    return env.bind target.name v

/-- The names that are bound after a list of statements. -/
def runList? (env : Env α) : List (Statement α) → Option (Env α)
  | [] => some env
  | s :: rest => do runList? (← s.run? env) rest

end Statement

namespace Program

/-- The distance that a program gives at a point. -/
def run? (program : Program α) (p : Vec2 α) : Option α := do
  let env ← Statement.runList? (.start p) program.statements
  match ← program.result.eval? env with
  | .float d => some d
  | _ => none

end Program

end DistanceField.Shader
