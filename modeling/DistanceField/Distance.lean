import DistanceField.Vec2

/-!
# Distances to the basic shapes

Each function gives the signed distance from a point to the boundary of a shape around the origin:
negative inside and positive outside.
-/

namespace DistanceField.Distance

variable {α : Type} [Scalar α]

/-- The distance to a circle of radius `r`. -/
def circle (p : Vec2 α) (r : α) : α :=
  p.length - r

/-- The distance to a box with half extents `b`. -/
def box (p b : Vec2 α) : α :=
  let d := p.map Scalar.abs - b
  (d.map (Scalar.max · 0.0)).length + Scalar.min (Scalar.max d.x d.y) 0.0

/-- The distance to a vertical segment of length `h`, thickened by `r`. -/
def capsule (p : Vec2 α) (h r : α) : α :=
  let y := p.y - Scalar.clamp p.y (-h * 0.5) (h * 0.5)
  (Vec2.mk p.x y).length - r

end DistanceField.Distance
