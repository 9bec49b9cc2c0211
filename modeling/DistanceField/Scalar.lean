/-!
# Scalars

Distances are computed from a few number operations. `Scalar` names them, so that every function
of a field is written once and can be read over any numbers: binary32 numbers when a scene is
drawn, rationals or an ordered set when it is reasoned about.
-/

namespace DistanceField

/-- The number operations of a distance field. Decimal literals and counts stand for their nearest
values, angles are in radians, and `infinity` is above all distances. -/
class Scalar (α : Type) extends Add α, Sub α, Mul α, Div α, Neg α, OfScientific α where
  min : α → α → α
  max : α → α → α
  abs : α → α
  floor : α → α
  sqrt : α → α
  sin : α → α
  cos : α → α
  infinity : α
  ofNat : Nat → α
  isZero : α → Bool

namespace Scalar

variable {α : Type} [Scalar α]

/-- Raise `x` to `lo`, then lower it to `hi`: when the limits cross, `hi` wins. -/
def clamp (x lo hi : α) : α :=
  Scalar.min (Scalar.max x lo) hi

/-- The point between `a` and `b` at the fraction `t` of the way. -/
def mix (a b t : α) : α :=
  a * (1.0 - t) + b * t

/-- The remainder of `x` by `y` that has the sign of `y`. -/
def modulo (x y : α) : α :=
  x - y * Scalar.floor (x / y)

end Scalar

end DistanceField
