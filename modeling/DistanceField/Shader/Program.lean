import DistanceField.Shader.Expr

/-!
# Shader programs

A program is the body of the function `map`, which gives the distance at a point: statements that
bind variables, and the expression that is returned.
-/

namespace DistanceField.Shader

/-- The types of variables. -/
inductive ValueType where
  | float
  | vec2
  deriving DecidableEq

def ValueType.name : ValueType → String
  | .float => "float"
  | .vec2 => "vec2"

/-- A statement of the function body. It binds a new variable, or one that was bound before. -/
inductive Statement (α : Type) where
  | declare (type : ValueType) (target : Variable) (value : Expr α)
  | assign (target : Variable) (value : Expr α)

/-- The body of the function `map`, with the expression that it returns. -/
structure Program (α : Type) where
  statements : List (Statement α)
  result : Expr α

variable {α : Type}

namespace Statement

/-- The variable that a statement binds. -/
def target : Statement α → Variable
  | .declare _ target _ => target
  | .assign target _ => target

/-- The expression that a statement binds a variable to. -/
def value : Statement α → Expr α
  | .declare _ _ value => value
  | .assign _ value => value

/-- The name that a statement binds. -/
def name (s : Statement α) : String := s.target.name

variable [FixedText α]

/-- The line of a statement. -/
def line : Statement α → String
  | .declare type target value =>
    "    " ++ type.name ++ " " ++ target.name ++ " = " ++ value.text ++ ";"
  | .assign target value => "    " ++ target.name ++ " = " ++ value.text ++ ";"

end Statement

namespace Program

/-- The first statement that binds a name. -/
def statement? (p : Program α) (name : String) : Option (Statement α) :=
  p.statements.find? (·.name == name)

variable [FixedText α]

/-- The lines of a list of statements. -/
def lines : List (Statement α) → String
  | [] => ""
  | s :: rest => s.line ++ "\n" ++ lines rest

/-- The text of the function `map`. -/
def mapFunction (p : Program α) : String :=
  "float map(vec2 p) \x7b\n" ++ lines p.statements ++ "    return " ++ p.result.text ++ ";\n\x7d"

end Program

end DistanceField.Shader
