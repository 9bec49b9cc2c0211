import DistanceField.Distance
import DistanceField.Plan

/-!
# The field of a scene

`Node.eval` is the distance of a tree at a point: the distances of the children at the warped
point, folded and finished. `Field.grid` samples it at the centres of a square grid.
-/

namespace DistanceField

variable {α : Type} [Scalar α]

namespace Primitive

/-- The point in the shape's own coordinates. -/
def localPoint (b : Primitive α) (p : Vec2 α) : Vec2 α :=
  let moved := p - b.position
  if Scalar.isZero b.rotation then moved else moved.rotate b.rotation

/-- The distance to a placed shape. -/
def eval (b : Primitive α) (p : Vec2 α) : α :=
  let q := b.localPoint p
  match b.shape with
  | .circle radius => Distance.circle q (radius.getD Unset.circleRadius)
  | .box size => Distance.box q (size.getD Unset.boxSize)
  | .capsule radius length =>
    Distance.capsule q (length.getD Unset.capsuleLength) (radius.getD Unset.capsuleRadius)

end Primitive

namespace Fold

/-- The nearest of the shapes that a first one is cut by. -/
def cutter (ds : List α) : α :=
  ds.foldl Scalar.min Scalar.infinity

/-- The folded distance of a first child and the others. -/
def apply (d : α) (ds : List α) : Fold α → α
  | .union => ds.foldl Scalar.min d
  | .smoothUnion k => ds.foldl (Blend.smoothUnion · · k) d
  | .intersect => ds.foldl Scalar.max d
  | .smoothIntersect k => ds.foldl (Blend.smoothIntersection · · k) d
  | .xor => ds.foldl Blend.exclusive d
  | .subtract => if ds.isEmpty then d else Scalar.max d (-cutter ds)
  | .smoothSubtract k => if ds.isEmpty then d else Blend.smoothSubtraction (cutter ds) d k

end Fold

namespace Finish

/-- The finished distance. -/
def apply (d : α) : Finish α → α
  | .dilate radius => d - radius
  | .erode radius => d + radius
  | .shell thickness => Scalar.abs d - thickness
  | .invert => -d
  | .clamp lo hi => Scalar.clamp d lo hi

end Finish

namespace Plan

/-- The point at which the children are sampled. -/
def point (p : Vec2 α) : Plan α → Vec2 α
  | .displace _ => p
  | .stages none _ _ => p
  | .stages (some warp) _ _ => warp.apply p

/-- The height of the wave that displaces a shape on its own. -/
def wave (p : Vec2 α) : α :=
  Scalar.sin (p.x * waveFrequency) * Scalar.sin (p.y * waveFrequency)

/-- The distance of an operation, from the distances of its children. -/
def value (p : Vec2 α) : Plan α → List α → α
  | _, [] => sentinel
  | .displace strength, [base] => base + strength * wave p
  | .displace strength, base :: source :: _ => base + strength * source
  | .stages _ fold none, d :: ds => fold.apply d ds
  | .stages _ fold (some finish), d :: ds => finish.apply (fold.apply d ds)

end Plan

namespace Node

mutual

/-- The distance of a tree at a point. -/
def eval (p : Vec2 α) : Node α → α
  | .primitive _ body => body.eval p
  | .operation _ op children => op.plan.value p (evalList (op.plan.point p) children)

/-- The distances of a list of trees at a point. -/
def evalList (p : Vec2 α) : List (Node α) → List α
  | [] => []
  | n :: rest => n.eval p :: evalList p rest

end

end Node

namespace Field

/-- The distance of a scene at a point; the sentinel where there is no tree. -/
def eval (scene : Option (Node α)) (p : Vec2 α) : α :=
  match scene with
  | none => sentinel
  | some tree => tree.eval p

/-- The distances of a scene at several points. -/
def evalAll (scene : Option (Node α)) (points : List (Vec2 α)) : List α :=
  points.map (eval scene)

/-- The centre of a cell of the grid that divides the box from `lo` to `hi` into `n` columns and
`n` rows. -/
def cellCentre (lo hi : Vec2 α) (n column row : Nat) : Vec2 α :=
  let stepX := (hi.x - lo.x) / Scalar.ofNat n
  let stepY := (hi.y - lo.y) / Scalar.ofNat n
  ⟨lo.x + (Scalar.ofNat column + 0.5) * stepX, lo.y + (Scalar.ofNat row + 0.5) * stepY⟩

/-- The cell centres of a grid, row by row. -/
def cellCentres (lo hi : Vec2 α) (n : Nat) : List (Vec2 α) :=
  (List.range n).flatMap fun row => (List.range n).map fun column => cellCentre lo hi n column row

/-- The distances of a scene at the cell centres of a grid, row by row. -/
def grid (scene : Option (Node α)) (lo hi : Vec2 α) (n : Nat) : List α :=
  evalAll scene (cellCentres lo hi n)

end Field

end DistanceField
