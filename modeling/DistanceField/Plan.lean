import DistanceField.Blend
import DistanceField.Node.Basic
import DistanceField.Warp

/-!
# What an operation does

An operation moves the sample point, folds the distances of its children into one, and changes the
folded distance. `Operator.plan` reads these three stages off an operation for whoever computes
distances. A displacement is the exception: it adds a height to its first child.

A parameter that is not set stands for a fixed value. These values are kept apart from the stages,
since a printer of shader code falls back on them too.
-/

namespace DistanceField

/-- The distance where there is no surface. -/
def sentinel {α : Type} [Scalar α] : α := 100.0

/-- The angular frequency of the wave that a displacement uses when it has no second child. -/
def waveFrequency {α : Type} [Scalar α] : α := 4.0

/-! ### Values of unset parameters -/

namespace Unset

variable {α : Type} [Scalar α]

def circleRadius : α := 0.5

def boxSize : Vec2 α := ⟨0.5, 0.5⟩

def capsuleRadius : α := 0.1

def capsuleLength : α := 0.5

def period : Vec2 α := .one

def offset : α := 0.0

/-- The strength of a bend or a twist. -/
def warpStrength : α := 1.0

def displaceStrength : α := 0.5

/-- How far a boundary is moved, outwards or inwards. -/
def opRadius : α := 0.1

def thickness : α := 0.05

def minLimit : α := -1.0

def maxLimit : α := 1.0

end Unset

/-! ### Stages -/

/-- How the distances of the children become one. The smooth folds are rounded over a band of the
given width, and the subtractions keep what is in the first child and in no other. -/
inductive Fold (α : Type) where
  | union
  | smoothUnion (blend : α)
  | intersect
  | smoothIntersect (blend : α)
  | xor
  | subtract
  | smoothSubtract (blend : α)
  deriving DecidableEq

/-- What is done to the folded distance. -/
inductive Finish (α : Type) where
  | dilate (radius : α)
  | erode (radius : α)
  | shell (thickness : α)
  | invert
  | clamp (lo hi : α)
  deriving DecidableEq

/-- The stages of an operation. A displacement adds to the first child the height of the second, or
of a wave when there is none. -/
inductive Plan (α : Type) where
  | displace (strength : α)
  | stages (warp : Option (Warp α)) (fold : Fold α) (finish : Option (Finish α))
  deriving DecidableEq

namespace Operator

variable {α : Type} [Scalar α]

/-- The warp of an operation. -/
def warp? (op : Operator α) : Option (Warp α) :=
  match op.kind with
  | .tile => some (.tile (op.params.period.getD Unset.period))
  | .mirror => some (.mirror (op.params.offset.getD Unset.offset) (op.params.axis.getD .x))
  | .bend => some (.bend (op.params.strength.getD Unset.warpStrength) (op.params.axis.getD .x))
  | .twist => some (.twist (op.params.strength.getD Unset.warpStrength))
  | _ => none

/-- The fold of an operation. A blend other than zero makes the plain folds smooth. -/
def fold (op : Operator α) : Fold α :=
  let hard := Scalar.isZero op.blend
  match op.kind with
  | .subtract => if hard then .subtract else .smoothSubtract op.blend
  | .smoothSubtract => .smoothSubtract op.blend
  | .intersect => if hard then .intersect else .smoothIntersect op.blend
  | .smoothIntersect => .smoothIntersect op.blend
  | .xor => .xor
  | .group => .union
  | .smoothUnion => .smoothUnion op.blend
  | _ => if hard then .union else .smoothUnion op.blend

/-- The finish of an operation. -/
def finish? (op : Operator α) : Option (Finish α) :=
  match op.kind with
  | .dilate => some (.dilate (op.params.opRadius.getD Unset.opRadius))
  | .erode => some (.erode (op.params.opRadius.getD Unset.opRadius))
  | .shell => some (.shell (op.params.thickness.getD Unset.thickness))
  | .invert => some .invert
  | .clamp =>
    some (.clamp (op.params.minLimit.getD Unset.minLimit) (op.params.maxLimit.getD Unset.maxLimit))
  | _ => none

/-- The stages of an operation. -/
def plan (op : Operator α) : Plan α :=
  if op.kind = .displace then .displace (op.params.strength.getD Unset.displaceStrength)
  else .stages op.warp? op.fold op.finish?

end Operator

end DistanceField
