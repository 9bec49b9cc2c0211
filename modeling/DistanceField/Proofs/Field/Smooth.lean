import Mathlib
import DistanceField.Field
import DistanceField.Proofs.Number.Rational

/-!
# Smooth and hard folds

Over exact numbers, a smooth union of two distances is their minimum, changed by a parabola while
the distances are closer than the band. How much it is changed depends on one number, the share that
the larger distance has in the mixture: zero outside of the band, and one half where the two
distances are equal. Smooth intersections and subtractions are smooth unions of negated distances.

Below a blend of `0.0001` the band is wider than the blend, and the parabola can also raise the
minimum. In all cases the change is at most a quarter of the band. Minima and maxima do not enlarge
a difference of their arguments, so along a fold the changes of the single steps add up.
-/

namespace DistanceField

/-! ### One step -/

namespace Blend

variable [RationalGaps] {k : ℚ} (a b : ℚ)

lemma band_rat (k : ℚ) : band k = max k (1 / 10000) := by
  have hwidth : (0.0001 : ℚ) = 1 / 10000 := by norm_num
  rw [band, hwidth]
  rfl

lemma band_pos (k : ℚ) : 0 < band k := by
  rw [band_rat]
  exact lt_max_of_lt_right (by norm_num)

lemma le_band (k : ℚ) : k ≤ band k :=
  le_max_left _ _

lemma band_eq_self (hk : 1 / 10000 ≤ k) : band k = k := by
  rw [band_rat, max_eq_left hk]

/-- The part of the first distance in the mixture of a smooth union. -/
def weight (k : ℚ) : ℚ :=
  min (max (1 / 2 + (b - a) / (2 * band k)) 0) 1

lemma smoothUnion_rat (k : ℚ) :
    smoothUnion a b k =
      b * (1 - weight a b k) + a * weight a b k - k * weight a b k * (1 - weight a b k) := by
  have hweight : Scalar.clamp (0.5 + 0.5 * (b - a) / band k) 0.0 1.0 = weight a b k := by
    rw [Scalar.clamp_rat, weight, mul_comm 2, ← div_div]
    norm_num
    ring_nf
  simp only [smoothUnion, hweight, Scalar.mix_rat]
  norm_num

/-- A smooth intersection is a smooth union of the outsides, seen from inside. -/
lemma smoothIntersection_eq_neg (k : ℚ) :
    smoothIntersection a b k = -smoothUnion (-a) (-b) k := by
  have hweight : Scalar.clamp (0.5 - 0.5 * (b - a) / band k) 0.0 1.0 = weight (-a) (-b) k := by
    rw [Scalar.clamp_rat, weight, mul_comm 2, ← div_div]
    norm_num
    ring_nf
  simp only [smoothUnion_rat, smoothIntersection, hweight, Scalar.mix_rat]
  norm_num
  ring

/-- A smooth subtraction is a smooth intersection with the outside of what is subtracted. -/
lemma smoothSubtraction_eq (k : ℚ) : smoothSubtraction a b k = smoothIntersection (-a) b k := by
  simp only [smoothSubtraction, smoothIntersection, sub_neg_eq_add]

/-- The part of the larger distance in the mixture of a smooth union. -/
def share (k : ℚ) : ℚ :=
  max (1 / 2 - |b - a| / (2 * band k)) 0

variable {a b}

lemma share_nonneg : 0 ≤ share a b k :=
  le_max_right _ _

lemma share_le_half : share a b k ≤ 1 / 2 := by
  have hgap : 0 ≤ |b - a| / (2 * band k) :=
    div_nonneg (abs_nonneg _) (mul_nonneg two_pos.le (band_pos k).le)
  exact max_le (by linarith) (by norm_num)

lemma share_eq_zero (h : band k ≤ |b - a|) : share a b k = 0 := by
  have hgap : 1 / 2 ≤ |b - a| / (2 * band k) := by
    rw [le_div_iff₀ (mul_pos two_pos (band_pos k))]
    linarith
  exact max_eq_right (by linarith)

/-- Inside of the band, the share measures how far apart the two distances are. -/
lemma share_mul_abs : share a b k * |b - a| = share a b k * (band k * (1 - 2 * share a b k)) := by
  rcases le_total (band k) |b - a| with h | h
  · rw [share_eq_zero h, zero_mul, zero_mul]
  · have hband := band_pos k
    have hgap : |b - a| / (2 * band k) ≤ 1 / 2 := by
      rw [div_le_iff₀ (mul_pos two_pos hband)]
      linarith
    have hshare : share a b k = 1 / 2 - |b - a| / (2 * band k) := max_eq_left (by linarith)
    rw [hshare]
    field_simp
    ring

lemma weight_of_le (h : a ≤ b) : weight a b k = 1 - share a b k := by
  have hgap : 0 ≤ (b - a) / (2 * band k) :=
    div_nonneg (sub_nonneg.2 h) (mul_nonneg two_pos.le (band_pos k).le)
  rw [weight, share, abs_of_nonneg (sub_nonneg.2 h), max_eq_left (by linarith)]
  rcases le_total (1 / 2) ((b - a) / (2 * band k)) with hfar | hnear
  · rw [min_eq_right (by linarith), max_eq_right (by linarith), sub_zero]
  · rw [min_eq_left (by linarith), max_eq_left (by linarith)]
    ring

lemma weight_of_ge (h : b ≤ a) : weight a b k = share a b k := by
  have hgap : (b - a) / (2 * band k) ≤ 0 :=
    div_nonpos_of_nonpos_of_nonneg (sub_nonpos.2 h) (mul_nonneg two_pos.le (band_pos k).le)
  rw [weight, share, abs_of_nonpos (sub_nonpos.2 h), neg_div, sub_neg_eq_add]
  exact min_eq_left (max_le (by linarith) zero_le_one)

/-- What a smooth union adds to the minimum of its two distances. -/
lemma smoothUnion_eq :
    smoothUnion a b k =
      min a b + share a b k * ((band k - k) * (1 - share a b k) - band k * share a b k) := by
  have hmul := share_mul_abs (a := a) (b := b) (k := k)
  rw [smoothUnion_rat]
  rcases le_total a b with h | h
  · rw [abs_of_nonneg (sub_nonneg.2 h)] at hmul
    rw [weight_of_le h, min_eq_left h]
    linear_combination hmul
  · rw [abs_of_nonpos (sub_nonpos.2 h)] at hmul
    rw [weight_of_ge h, min_eq_right h]
    linear_combination hmul

/-- A smooth union is within a quarter of the band of the minimum. -/
lemma abs_smoothUnion_sub_min_le (hk : 0 ≤ k) : |smoothUnion a b k - min a b| ≤ band k / 4 := by
  have hband := le_band k
  have ht := share_nonneg (a := a) (b := b) (k := k)
  have ht' := share_le_half (a := a) (b := b) (k := k)
  rw [smoothUnion_eq, add_sub_cancel_left]
  generalize share a b k = t at ht ht'
  rw [abs_le]
  constructor
  · -- The parabola is lowest where the distances are equal.
    have hlow : t ^ 2 ≤ 1 / 4 := by nlinarith
    have hrest : 0 ≤ t * ((band k - k) * (1 - t)) :=
      mul_nonneg ht (mul_nonneg (sub_nonneg.2 hband) (by linarith))
    nlinarith [band_pos k]
  · -- Without a blend it is highest a quarter of the way.
    have hhigh : t * (1 - 2 * t) ≤ 1 / 8 := by nlinarith [sq_nonneg (4 * t - 1)]
    have hrest : 0 ≤ k * (t * (1 - t)) := mul_nonneg hk (mul_nonneg ht (by linarith))
    nlinarith [band_pos k]

lemma smoothUnion_le_min (hk : 1 / 10000 ≤ k) : smoothUnion a b k ≤ min a b := by
  have hsquare : 0 ≤ k * share a b k ^ 2 := mul_nonneg (by linarith) (sq_nonneg _)
  rw [smoothUnion_eq, band_eq_self hk]
  linarith

lemma smoothUnion_eq_min (h : band k ≤ |b - a|) : smoothUnion a b k = min a b := by
  rw [smoothUnion_eq, share_eq_zero h, zero_mul, add_zero]

lemma abs_smoothIntersection_sub_max_le (hk : 0 ≤ k) :
    |smoothIntersection a b k - max a b| ≤ band k / 4 := by
  have h := abs_smoothUnion_sub_min_le (a := -a) (b := -b) hk
  rw [min_neg_neg, sub_neg_eq_add] at h
  rwa [smoothIntersection_eq_neg, neg_sub_left, abs_neg, add_comm]

lemma max_le_smoothIntersection (hk : 1 / 10000 ≤ k) : max a b ≤ smoothIntersection a b k := by
  have h := smoothUnion_le_min (a := -a) (b := -b) hk
  rw [min_neg_neg] at h
  rw [smoothIntersection_eq_neg]
  exact le_neg_of_le_neg h

lemma smoothIntersection_eq_max (h : band k ≤ |b - a|) : smoothIntersection a b k = max a b := by
  have h' : band k ≤ |-b - -a| := by rwa [neg_sub_neg, abs_sub_comm]
  rw [smoothIntersection_eq_neg, smoothUnion_eq_min h', min_neg_neg, neg_neg]

end Blend

/-! ### Folds -/

namespace Fold

/-- Along a fold, steps that are close to steps which do not enlarge differences stay close. -/
lemma abs_foldl_sub_foldl_le {f g : ℚ → ℚ → ℚ} {e : ℚ} (hstep : ∀ x y, |f x y - g x y| ≤ e)
    (hg : ∀ x x' y, |g x y - g x' y| ≤ |x - x'|) (ds : List ℚ) (x x' : ℚ) :
    |ds.foldl f x - ds.foldl g x'| ≤ |x - x'| + ds.length * e := by
  induction ds generalizing x x' with
  | nil => simp
  | cons y ys ih =>
    have hnear : |f x y - g x' y| ≤ e + |x - x'| :=
      (abs_sub_le _ (g x y) _).trans (add_le_add (hstep x y) (hg x x' y))
    calc |ys.foldl f (f x y) - ys.foldl g (g x' y)|
        ≤ |f x y - g x' y| + ys.length * e := ih _ _
      _ ≤ e + |x - x'| + ys.length * e := add_le_add_left hnear _
      _ = |x - x'| + (y :: ys).length * e := by
        rw [List.length_cons]
        push_cast
        ring

lemma abs_min_sub_min_le (x x' y : ℚ) : |min x y - min x' y| ≤ |x - x'| := by
  simpa using abs_min_sub_min_le_max x y x' y

lemma abs_max_sub_max_le (x x' y : ℚ) : |max x y - max x' y| ≤ |x - x'| := by
  simpa using abs_max_sub_max_le_max x y x' y

lemma isLeast_foldl_min (d : ℚ) (ds : List ℚ) : IsLeast {x | x ∈ d :: ds} (ds.foldl min d) :=
  List.min?_eq_some_iff.1 List.min?_cons'

lemma isGreatest_foldl_max (d : ℚ) (ds : List ℚ) :
    IsGreatest {x | x ∈ d :: ds} (ds.foldl max d) :=
  List.max?_eq_some_iff.1 List.max?_cons'

section

variable [RationalGaps] {k d m : ℚ} {ds : List ℚ}

lemma abs_smoothUnion_sub_le (hk : 0 ≤ k) (hm : IsLeast {x | x ∈ d :: ds} m) :
    |Fold.apply d ds (.smoothUnion k) - m| ≤ ds.length * (Blend.band k / 4) := by
  have h := abs_foldl_sub_foldl_le (fun _ _ => Blend.abs_smoothUnion_sub_min_le hk)
    abs_min_sub_min_le ds d d
  rwa [(isLeast_foldl_min d ds).unique hm, sub_self, abs_zero, zero_add] at h

lemma abs_smoothIntersect_sub_le (hk : 0 ≤ k) (hm : IsGreatest {x | x ∈ d :: ds} m) :
    |Fold.apply d ds (.smoothIntersect k) - m| ≤ ds.length * (Blend.band k / 4) := by
  have h := abs_foldl_sub_foldl_le (fun _ _ => Blend.abs_smoothIntersection_sub_max_le hk)
    abs_max_sub_max_le ds d d
  rwa [(isGreatest_foldl_max d ds).unique hm, sub_self, abs_zero, zero_add] at h

lemma smoothUnion_le (hk : 1 / 10000 ≤ k) (hm : IsLeast {x | x ∈ d :: ds} m) :
    Fold.apply d ds (.smoothUnion k) ≤ m := by
  have h : ds.foldl (Blend.smoothUnion · · k) d ≤ ds.foldl min d := by
    refine List.foldl_rel (r := (· ≤ ·)) le_rfl fun y _ x x' hx => ?_
    exact (Blend.smoothUnion_le_min hk).trans (min_le_min_right y hx)
  rwa [(isLeast_foldl_min d ds).unique hm] at h

lemma le_smoothIntersect (hk : 1 / 10000 ≤ k) (hm : IsGreatest {x | x ∈ d :: ds} m) :
    m ≤ Fold.apply d ds (.smoothIntersect k) := by
  have h : ds.foldl max d ≤ ds.foldl (Blend.smoothIntersection · · k) d := by
    refine List.foldl_rel (r := (· ≤ ·)) le_rfl fun y _ x x' hx => ?_
    exact (max_le_max_right y hx).trans (Blend.max_le_smoothIntersection hk)
  rwa [(isGreatest_foldl_max d ds).unique hm] at h

/-- The nearest cutter is found as long as the number to start from is above all of them. -/
lemma cutter_eq (hm : IsLeast {x | x ∈ ds} m) (hds : ∀ x ∈ ds, x ≤ RationalGaps.infinity) :
    cutter ds = m := by
  have hleast : IsLeast {x | x ∈ RationalGaps.infinity :: ds} m := by
    refine ⟨List.mem_cons_of_mem _ hm.1, fun x hx => ?_⟩
    rcases List.mem_cons.1 hx with rfl | hx
    · exact hds m hm.1
    · exact hm.2 hx
  exact (isLeast_foldl_min _ ds).unique hleast

lemma smoothSubtract_eq (hm : IsLeast {x | x ∈ ds} m)
    (hds : ∀ x ∈ ds, x ≤ RationalGaps.infinity) :
    Fold.apply d ds (.smoothSubtract k) = Blend.smoothSubtraction m d k := by
  have hne : ds ≠ [] := List.ne_nil_of_mem hm.1
  rw [Fold.apply, if_neg (by simpa using hne), cutter_eq hm hds]

/-- The folds with the blend `k` stay close to the hard ones. A first child and its `ds.length`
siblings are folded in as many steps. -/
structure NearHard (k : ℚ) : Prop where
  union : ∀ d ds lo, IsLeast {x | x ∈ d :: ds} lo →
    |Fold.apply d ds (.smoothUnion k) - lo| ≤ ds.length * (max k (1 / 10000) / 4)
  intersect : ∀ d ds hi, IsGreatest {x | x ∈ d :: ds} hi →
    |Fold.apply d ds (.smoothIntersect k) - hi| ≤ ds.length * (max k (1 / 10000) / 4)
  subtract : ∀ d ds cut, IsLeast {x | x ∈ ds} cut → (∀ x ∈ ds, x ≤ RationalGaps.infinity) →
    Fold.apply d ds (.smoothSubtract k) = Blend.smoothSubtraction cut d k
  subtraction : ∀ cut d,
    |Blend.smoothSubtraction cut d k - max d (-cut)| ≤ max k (1 / 10000) / 4

/-- The folds with the blend `k` only round off: unions grow, intersections and subtractions
shrink, and distances that differ by `k` or more are not changed. -/
structure RoundsOff (k : ℚ) : Prop where
  union_le : ∀ d ds lo, IsLeast {x | x ∈ d :: ds} lo → Fold.apply d ds (.smoothUnion k) ≤ lo
  le_intersect : ∀ d ds hi, IsGreatest {x | x ∈ d :: ds} hi →
    hi ≤ Fold.apply d ds (.smoothIntersect k)
  le_subtraction : ∀ cut d, max d (-cut) ≤ Blend.smoothSubtraction cut d k
  union_eq : ∀ d₁ d₂, k ≤ |d₂ - d₁| → Blend.smoothUnion d₁ d₂ k = min d₁ d₂
  intersection_eq : ∀ d₁ d₂, k ≤ |d₂ - d₁| → Blend.smoothIntersection d₁ d₂ k = max d₁ d₂
  subtraction_eq : ∀ d₁ d₂, k ≤ |d₂ - -d₁| → Blend.smoothSubtraction d₁ d₂ k = max d₂ (-d₁)

/-- Smooth folds stay within a quarter of the band of the hard folds for each step, and from a blend
of `0.0001` on they only round off. -/
theorem smooth_near_hard (hk : 0 ≤ k) : NearHard k ∧ (1 / 10000 ≤ k → RoundsOff k) := by
  have hband : max k (1 / 10000) = Blend.band k := (Blend.band_rat k).symm
  constructor
  · constructor
    case union =>
      intro d ds lo hlo
      rw [hband]
      exact abs_smoothUnion_sub_le hk hlo
    case intersect =>
      intro d ds hi hhi
      rw [hband]
      exact abs_smoothIntersect_sub_le hk hhi
    case subtract => exact fun d ds cut hcut hds => smoothSubtract_eq hcut hds
    case subtraction =>
      intro cut d
      rw [hband, Blend.smoothSubtraction_eq, max_comm]
      exact Blend.abs_smoothIntersection_sub_max_le hk
  · intro hk'
    -- Now the band is as wide as the blend.
    have hself := Blend.band_eq_self hk'
    constructor
    case union_le => exact fun d ds lo hlo => smoothUnion_le hk' hlo
    case le_intersect => exact fun d ds hi hhi => le_smoothIntersect hk' hhi
    case le_subtraction =>
      intro cut d
      rw [Blend.smoothSubtraction_eq, max_comm]
      exact Blend.max_le_smoothIntersection hk'
    case union_eq => exact fun d₁ d₂ h => Blend.smoothUnion_eq_min (hself.trans_le h)
    case intersection_eq =>
      exact fun d₁ d₂ h => Blend.smoothIntersection_eq_max (hself.trans_le h)
    case subtraction_eq =>
      intro d₁ d₂ h
      rw [Blend.smoothSubtraction_eq, max_comm]
      exact Blend.smoothIntersection_eq_max (hself.trans_le h)

end

/-- Some values for what the rational numbers do not have. -/
@[reducible]
def belowHundred : RationalGaps where
  sqrt x := x
  sin x := x
  cos x := x
  infinity := 100

/-- Two equal distances and one that is further off: the first step uses up what it may. -/
theorem smooth_near_hard_equalDistances :
    letI := belowHundred
    |Fold.apply 1 [1, 3] (.smoothUnion (1 / 2 : ℚ)) - 1| ≤ 2 * (max (1 / 2) (1 / 10000) / 4) ∧
      Fold.apply 1 [1, 3] (.smoothUnion (1 / 2 : ℚ)) = 1 - 1 / 2 / 4 ∧
      Fold.apply 2 [1, 3] (.smoothSubtract (1 / 2 : ℚ)) = max 2 (-1) := by
  let := belowHundred
  obtain ⟨hnear, hround⟩ := smooth_near_hard (k := 1 / 2) (by norm_num)
  have hlo : IsLeast {x : ℚ | x ∈ [1, 1, 3]} 1 := isLeast_foldl_min 1 [1, 3]
  have hcut : IsLeast {x : ℚ | x ∈ [1, 3]} 1 := isLeast_foldl_min 1 [3]
  refine ⟨hnear.union 1 [1, 3] 1 hlo, by decide +kernel, ?_⟩
  rw [hnear.subtract 2 [1, 3] 1 hcut (by decide +kernel)]
  exact (hround (by norm_num)).subtraction_eq 1 2 (by norm_num)

-- Without a blend, the guarded divisor rounds the other way.
example : letI := belowHundred; 0 < Blend.smoothUnion (0 : ℚ) (1 / 20000) 0 := by
  decide +kernel

end Fold

end DistanceField
