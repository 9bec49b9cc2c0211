import DistanceField.Vec2

/-!
# Warps of the plane

A warp moves the point at which a shape is sampled, which repeats, reflects or bends the shape.
-/

namespace DistanceField

namespace Vec2

variable {α : Type} [Scalar α]

/-- Rotation of the plane that turns a shape by `a`: the point turns the other way. -/
def rotate (p : Vec2 α) (a : α) : Vec2 α :=
  let s := Scalar.sin a
  let c := Scalar.cos a
  ⟨c * p.x + s * p.y, -s * p.x + c * p.y⟩

/-- The coordinate of the cell of length `period` around zero. -/
def wrap (x period : α) : α :=
  Scalar.modulo (x + 0.5 * period) period - 0.5 * period

/-- The point of the cell around the origin that `p` falls on. -/
def tile (p period : Vec2 α) : Vec2 α :=
  zipWith wrap p period

/-- Fold the plane at `offset` on an axis. -/
def mirror (p : Vec2 α) (offset : α) : Axis → Vec2 α
  | .x => ⟨Scalar.abs (p.x - offset), p.y⟩
  | .y => ⟨p.x, Scalar.abs (p.y - offset)⟩

/-- Rotate by an angle that grows along an axis. -/
def bend (p : Vec2 α) (k : α) (axis : Axis) : Vec2 α :=
  p.rotate (k * p.along axis)

/-- Rotate by an angle that grows with the distance from the origin. -/
def twist (p : Vec2 α) (k : α) : Vec2 α :=
  p.rotate (k * p.length)

end Vec2

/-- A warp with its parameters. -/
inductive Warp (α : Type) where
  | tile (period : Vec2 α)
  | mirror (offset : α) (axis : Axis)
  | bend (strength : α) (axis : Axis)
  | twist (strength : α)
  deriving DecidableEq

namespace Warp

variable {α : Type} [Scalar α]

/-- The point that a shape under the warp is sampled at. -/
def apply (p : Vec2 α) : Warp α → Vec2 α
  | .tile period => p.tile period
  | .mirror offset axis => p.mirror offset axis
  | .bend strength axis => p.bend strength axis
  | .twist strength => p.twist strength

end Warp

end DistanceField
