import DistanceField.Scalar

/-!
# Plane vectors

Points, sizes and periods of the plane, with componentwise arithmetic.
-/

namespace DistanceField

/-- A pair of coordinates. -/
structure Vec2 (α : Type) where
  x : α
  y : α
  deriving BEq, DecidableEq

/-- One of the two coordinate axes. -/
inductive Axis where
  | x
  | y
  deriving DecidableEq, Inhabited

namespace Vec2

variable {α : Type}

/-- Apply a function to both coordinates. -/
def map (f : α → α) (v : Vec2 α) : Vec2 α :=
  ⟨f v.x, f v.y⟩

/-- Combine the coordinates of two vectors. -/
def zipWith (f : α → α → α) (v w : Vec2 α) : Vec2 α :=
  ⟨f v.x w.x, f v.y w.y⟩

instance [Add α] : Add (Vec2 α) := ⟨zipWith (· + ·)⟩

instance [Sub α] : Sub (Vec2 α) := ⟨zipWith (· - ·)⟩

/-- The coordinate along an axis. -/
def along (v : Vec2 α) : Axis → α
  | .x => v.x
  | .y => v.y

variable [Scalar α]

/-- The origin. -/
def zero : Vec2 α := ⟨0.0, 0.0⟩

/-- One in each coordinate. -/
def one : Vec2 α := ⟨1.0, 1.0⟩

/-- The distance from the origin. -/
def length (v : Vec2 α) : α :=
  Scalar.sqrt (v.x * v.x + v.y * v.y)

end Vec2

namespace Axis

/-- The axis as it is written in a document. -/
def name : Axis → String
  | .x => "x"
  | .y => "y"

def all : List Axis := [.x, .y]

def ofName? (s : String) : Option Axis :=
  all.find? (·.name == s)

end Axis

end DistanceField
