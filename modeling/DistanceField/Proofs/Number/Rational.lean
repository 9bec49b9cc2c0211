import Mathlib
import DistanceField.Scalar

/-!
# Exact arithmetic

The rational numbers as scalars: every operation of a field is exact, and a decimal literal is the
number that it spells. Square roots, sines and cosines lead out of the rational numbers, and no
rational number is above all others. `RationalGaps` leaves these open, so what is shown of rational
distances holds whatever stands there.
-/

namespace DistanceField

/-- Values for what the rational numbers do not have. Nothing is assumed of them. -/
class RationalGaps where
  sqrt : ℚ → ℚ
  sin : ℚ → ℚ
  cos : ℚ → ℚ
  infinity : ℚ

instance [RationalGaps] : Scalar ℚ where
  min := Min.min
  max := Max.max
  abs x := |x|
  floor x := ⌊x⌋
  sqrt := RationalGaps.sqrt
  sin := RationalGaps.sin
  cos := RationalGaps.cos
  infinity := RationalGaps.infinity
  ofNat n := n
  isZero x := x = 0

namespace Scalar

variable [RationalGaps] (x y lo hi t : ℚ)

lemma clamp_rat : Scalar.clamp x lo hi = Min.min (Max.max x lo) hi := rfl

lemma mix_rat : Scalar.mix x y t = x * (1 - t) + y * t := by
  unfold Scalar.mix
  norm_num

end Scalar

end DistanceField
