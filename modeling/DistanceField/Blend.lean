import DistanceField.Scalar

/-!
# Binary combinations of distances

The smooth combinations replace the kink of `min` and `max` by a parabola over a band of width `k`.
The interpolation weight divides by at least `0.0001`, so that a blend of zero is defined.
-/

namespace DistanceField.Blend

variable {α : Type} [Scalar α]

/-- The width that the interpolation weight divides by. -/
def band (k : α) : α :=
  Scalar.max k 0.0001

/-- Inside when either is inside, rounded where they meet. -/
def smoothUnion (d₁ d₂ k : α) : α :=
  let h := Scalar.clamp (0.5 + 0.5 * (d₂ - d₁) / band k) 0.0 1.0
  Scalar.mix d₂ d₁ h - k * h * (1.0 - h)

/-- Inside the second and outside the first, rounded where they meet. -/
def smoothSubtraction (d₁ d₂ k : α) : α :=
  let h := Scalar.clamp (0.5 - 0.5 * (d₂ + d₁) / band k) 0.0 1.0
  Scalar.mix d₂ (-d₁) h + k * h * (1.0 - h)

/-- Inside both, rounded where they meet. -/
def smoothIntersection (d₁ d₂ k : α) : α :=
  let h := Scalar.clamp (0.5 - 0.5 * (d₂ - d₁) / band k) 0.0 1.0
  Scalar.mix d₂ d₁ h + k * h * (1.0 - h)

/-- Inside exactly one of the two. -/
def exclusive (d₁ d₂ : α) : α :=
  Scalar.max (Scalar.min d₁ d₂) (-Scalar.max d₁ d₂)

end DistanceField.Blend
