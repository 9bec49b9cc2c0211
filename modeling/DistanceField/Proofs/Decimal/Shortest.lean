import Mathlib
import DistanceField.Decimal.Shortest
import DistanceField.Proofs.Number.Parts

/-!
# Shortest decimals tell numbers apart

The shortest decimal of a number lies in the interval of reals that round to the number. The
intervals of two numbers meet in an end at most, and that end belongs to one of them only, the one
with the even significand. So different numbers have different decimals.
-/

namespace DistanceField.Decimal

open Binary32 (Parts Fields)

/-! ### Intervals -/

/-- The reals that round to a positive number, by four times their value. -/
structure Near (d : Parts) (v : ℚ) : Prop where
  lower : (4 * d.significand - if d.atBinadeStart then 1 else 2) * 2 ^ d.exponent ≤ 4 * v
  upper : 4 * v ≤ (4 * d.significand + 2) * (2 : ℚ) ^ d.exponent
  lower_ne : d.significand % 2 = 1 →
    (4 * d.significand - if d.atBinadeStart then 1 else 2) * 2 ^ d.exponent ≠ 4 * v
  upper_ne : d.significand % 2 = 1 → 4 * v ≠ (4 * d.significand + 2) * (2 : ℚ) ^ d.exponent

lemma Near.pos {d : Parts} {v : ℚ} (h : Near d v) (hd : 0 < d.significand) : 0 < v := by
  have hcast : (1 : ℚ) ≤ d.significand := by exact_mod_cast hd
  have hbelow : (if d.atBinadeStart then 1 else 2 : ℚ) ≤ 2 := by split_ifs <;> norm_num
  have hlower : 0 < (4 * (d.significand : ℚ) - if d.atBinadeStart then 1 else 2) * 2 ^ d.exponent :=
    mul_pos (by linarith) (by positivity)
  linarith [h.lower]

/-- If the interval of `d` reaches the interval of `e` from below, it does so in one point, and both
ends belong to their intervals only if both significands are even. -/
lemma Near.touch {d e : Parts} {v : ℚ} (hd : Near d v) (he : Near e v)
    (hle : (4 * d.significand + 2) * (2 : ℚ) ^ d.exponent
      ≤ (4 * e.significand - if e.atBinadeStart then 1 else 2) * 2 ^ e.exponent) :
    (4 * d.significand + 2) * (2 : ℚ) ^ d.exponent
      = (4 * e.significand - if e.atBinadeStart then 1 else 2) * 2 ^ e.exponent ∧
    d.significand % 2 = 0 ∧ e.significand % 2 = 0 := by
  have hupper := le_antisymm hd.upper (hle.trans he.lower)
  have hlower := le_antisymm he.lower (hd.upper.trans hle)
  refine ⟨(hlower.trans hupper).symm, ?_, ?_⟩
  · exact (Nat.mod_two_eq_zero_or_one _).resolve_right fun hodd => hd.upper_ne hodd hupper
  · exact (Nat.mod_two_eq_zero_or_one _).resolve_right fun hodd => he.lower_ne hodd hlower

/-- Numbers with the same exponent do not share a real. -/
lemma Near.significand_le {d e : Parts} {v : ℚ} (hd : Near d v) (he : Near e v)
    (hexponent : d.exponent = e.exponent) : e.significand ≤ d.significand := by
  by_contra hlt
  have hunit : (0 : ℚ) < 2 ^ e.exponent := by positivity
  have hbelow : (if e.atBinadeStart then 1 else 2 : ℚ) ≤ 2 := by split_ifs <;> norm_num
  have hsucc : (d.significand : ℚ) + 1 ≤ e.significand := by exact_mod_cast not_le.mp hlt
  obtain ⟨hend, hdeven, heeven⟩ := hd.touch he (by
    rw [hexponent]
    exact mul_le_mul_of_nonneg_right (by linarith) hunit.le)
  rw [hexponent] at hend
  have hnumbers := mul_right_cancel₀ hunit.ne' hend
  have hnext : e.significand ≤ d.significand + 1 := by
    have hcast : (e.significand : ℚ) ≤ d.significand + 1 := by linarith
    exact_mod_cast hcast
  omega

/-- A number of a lower binade does not share a real with one of a higher binade. -/
lemma Near.exponent_le {d e : Parts} {v : ℚ} (hd : Near d v) (he : Near e v) (hdn : d.Normal)
    (hen : e.Normal) : e.exponent ≤ d.exponent := by
  by_contra hlt
  have hlt : d.exponent < e.exponent := not_le.mp hlt
  have hhigh : -149 < e.exponent := hdn.exponent_ge.trans_lt hlt
  have hunit : (0 : ℚ) < 2 ^ d.exponent := by positivity
  have hdouble : 2 * (2 : ℚ) ^ d.exponent ≤ 2 ^ e.exponent := by
    rw [← zpow_one_add₀ (by norm_num)]
    exact zpow_le_zpow_right₀ (by norm_num) (by omega)
  have hdcast : (d.significand : ℚ) + 1 ≤ 2 * (Fields.leadingBit : ℚ) := by
    exact_mod_cast hdn.significand_lt
  have hecast : (Fields.leadingBit : ℚ) ≤ e.significand := by exact_mod_cast hen.leading hhigh
  -- the lower end of `e` is nearer exactly where `e` starts its binade
  have hstart : 4 * (Fields.leadingBit : ℚ) - 1
      ≤ 4 * e.significand - if e.atBinadeStart then 1 else 2 := by
    by_cases hmin : e.significand = Fields.leadingBit
    · have hbinade : e.atBinadeStart = true := by simp [Parts.atBinadeStart, hmin, hhigh]
      rw [hbinade, hmin]
      simp
    · have hmore : (Fields.leadingBit : ℚ) + 1 ≤ e.significand := by
        have hge := hen.leading hhigh
        exact_mod_cast Nat.lt_of_le_of_ne hge (Ne.symm hmin)
      have hbelow : (if e.atBinadeStart then 1 else 2 : ℚ) ≤ 2 := by split_ifs <;> norm_num
      linarith
  have hlow : (8 * (Fields.leadingBit : ℚ) - 2) * 2 ^ d.exponent
      ≤ (4 * e.significand - if e.atBinadeStart then 1 else 2) * 2 ^ e.exponent := by
    have hleading : (1 : ℚ) ≤ Fields.leadingBit := by norm_num [Fields.leadingBit]
    calc (8 * (Fields.leadingBit : ℚ) - 2) * 2 ^ d.exponent
        = (4 * (Fields.leadingBit : ℚ) - 1) * (2 * 2 ^ d.exponent) := by ring
      _ ≤ (4 * (Fields.leadingBit : ℚ) - 1) * 2 ^ e.exponent :=
        mul_le_mul_of_nonneg_left hdouble (by linarith)
      _ ≤ (4 * e.significand - if e.atBinadeStart then 1 else 2) * 2 ^ e.exponent :=
        mul_le_mul_of_nonneg_right hstart (by positivity)
  obtain ⟨hend, hdeven, -⟩ := hd.touch he
    ((mul_le_mul_of_nonneg_right (by linarith) hunit.le).trans hlow)
  -- the end is reached from below only by the last number of a binade, which is odd
  have hlast : 2 * Fields.leadingBit ≤ d.significand + 1 := by
    have hcoefficient := le_of_mul_le_mul_right (hlow.trans hend.ge) hunit
    have hcast : 2 * (Fields.leadingBit : ℚ) ≤ d.significand + 1 := by linarith
    exact_mod_cast hcast
  have hmax := hdn.significand_lt
  rw [Fields.leadingBit] at hlast hmax
  omega

/-- No real rounds to two numbers. -/
lemma Near.eq {d e : Parts} {v : ℚ} (hd : Near d v) (he : Near e v) (hdn : d.Normal)
    (hen : e.Normal) : d.significand = e.significand ∧ d.exponent = e.exponent := by
  have hexponent := le_antisymm (he.exponent_le hd hen hdn) (hd.exponent_le he hdn hen)
  exact ⟨le_antisymm (he.significand_le hd hexponent.symm) (hd.significand_le he hexponent),
    hexponent⟩

/-! ### Grids -/

lemma pow_toNat (b : ℚ) (hb : b ≠ 0) (q : ℤ) : b ^ q.toNat = b ^ q * b ^ (-q).toNat := by
  rw [← zpow_natCast, ← zpow_natCast, ← zpow_add₀ hb]
  congr 1
  omega

/-- What both sides of a comparison are multiplied by. -/
def clearing (q i : ℤ) : ℚ := 2 ^ (-q).toNat * 10 ^ (-i).toNat

lemma clearing_pos (q i : ℤ) : 0 < clearing q i := by
  rw [clearing]
  positivity

lemma binaryUnit_eq (q i : ℤ) : (binaryUnit q i : ℚ) = 2 ^ q * clearing q i := by
  have hpow := pow_toNat 2 (by norm_num) q
  rw [binaryUnit, Nat.pow_eq, Nat.pow_eq, clearing, ← mul_assoc, ← hpow]
  push_cast
  rfl

lemma gridUnit_eq (q i : ℤ) : (gridUnit q i : ℚ) = 10 ^ i * clearing q i := by
  have hpow := pow_toNat 10 (by norm_num) i
  rw [gridUnit, Nat.pow_eq, Nat.pow_eq, clearing, mul_comm ((2 : ℚ) ^ _), ← mul_assoc, ← hpow]
  push_cast
  rfl

section Comparison

variable {q i : ℤ} {a n : ℕ}

lemma cast_mul_binaryUnit : ((a * binaryUnit q i : ℕ) : ℚ) = a * 2 ^ q * clearing q i := by
  rw [Nat.cast_mul, binaryUnit_eq, mul_assoc]

lemma cast_mul_gridUnit :
    ((4 * n * gridUnit q i : ℕ) : ℚ) = 4 * (n * 10 ^ i) * clearing q i := by
  rw [Nat.cast_mul, gridUnit_eq]
  push_cast
  ring

lemma binary_le_grid_iff :
    a * binaryUnit q i ≤ 4 * n * gridUnit q i ↔ (a : ℚ) * 2 ^ q ≤ 4 * (n * 10 ^ i) := by
  rw [← @Nat.cast_le ℚ, cast_mul_binaryUnit, cast_mul_gridUnit]
  exact mul_le_mul_iff_of_pos_right (clearing_pos q i)

lemma grid_le_binary_iff :
    4 * n * gridUnit q i ≤ a * binaryUnit q i ↔ 4 * (n * 10 ^ i) ≤ (a : ℚ) * 2 ^ q := by
  rw [← @Nat.cast_le ℚ, cast_mul_binaryUnit, cast_mul_gridUnit]
  exact mul_le_mul_iff_of_pos_right (clearing_pos q i)

end Comparison

/-- The test on grid points is exact. -/
lemma near_of_roundsTo {d : Parts} {i : ℤ} {n : ℕ} (hd : 0 < d.significand)
    (h : roundsTo d i n = true) : Near d (n * 10 ^ i) := by
  have hlower : ((4 * d.significand - (if d.atBinadeStart then 1 else 2) : ℕ) : ℚ)
      = 4 * d.significand - if d.atBinadeStart then 1 else 2 := by
    rw [Nat.cast_sub (by split_ifs <;> omega)]
    push_cast
    rfl
  have hupper : ((4 * d.significand + 2 : ℕ) : ℚ) = 4 * d.significand + 2 := by push_cast; rfl
  simp only [roundsTo] at h
  by_cases heven : d.significand % 2 = 0
  · rw [if_pos heven] at h
    obtain ⟨hle, hge⟩ := of_decide_eq_true h
    rw [binary_le_grid_iff, hlower] at hle
    rw [grid_le_binary_iff, hupper] at hge
    exact ⟨hle, hge, fun hodd => by omega, fun hodd => by omega⟩
  · rw [if_neg heven] at h
    obtain ⟨hlt, hgt⟩ := of_decide_eq_true h
    rw [← not_le, grid_le_binary_iff, hlower, not_le] at hlt
    rw [← not_le, binary_le_grid_iff, hupper, not_le] at hgt
    exact ⟨hlt.le, hgt.le, fun _ => hlt.ne, fun _ => hgt.ne⟩

/-! ### The search -/

lemma roundsTo_of_onGrid? {d : Parts} {i : ℤ} {n : ℕ} (h : onGrid? d i = some n) :
    roundsTo d i n = true := by
  simp only [onGrid?] at h
  split at h
  · cases h
  · rename_i hlow _
    obtain rfl := Option.some.inj h
    exact hlow
  · rename_i _ hhigh
    obtain rfl := Option.some.inj h
    exact hhigh
  · rename_i hlow hhigh
    split_ifs at h <;> obtain rfl := Option.some.inj h
    · exact hlow
    · exact hhigh

/-- A search that passes a grid with a point finds a point. -/
lemma roundsTo_search {d : Parts} {steps : ℕ} {i j : ℤ} (hj : (onGrid? d j).isSome = true)
    (hle : j ≤ i) (hlt : i < j + steps) :
    roundsTo d (search d steps i).exponent (search d steps i).digits = true := by
  induction steps generalizing i with
  | zero => omega
  | succ steps ih =>
    rw [search]
    cases hgrid : onGrid? d i with
    | some n => exact roundsTo_of_onGrid? hgrid
    | none =>
      have hne : i ≠ j := by
        rintro rfl
        rw [hgrid] at hj
        cases hj
      exact ih (by omega) (by push_cast at hlt; omega)

/-- Every number is a point of the finest grid. -/
lemma isSome_onGrid?_finest {d : Parts} (hd : 0 < d.significand) (hn : d.Normal) :
    (onGrid? d (-149)).isSome = true := by
  have hdvd : gridUnit d.exponent (-149) ∣ binaryUnit d.exponent (-149) := by
    have hgrid : gridUnit d.exponent (-149) = 2 ^ (-d.exponent).toNat := Nat.one_mul _
    have hpow : 2 ^ (-d.exponent).toNat ∣ 2 ^ 149 :=
      Nat.pow_dvd_pow 2 (by have := hn.exponent_ge; omega)
    rw [hgrid]
    exact (hpow.trans (pow_dvd_pow_of_dvd (by decide) 149)).mul_left _
  have hunit : 0 < binaryUnit d.exponent (-149) :=
    Nat.mul_pos (Nat.pow_pos (by decide)) (Nat.pow_pos (by decide))
  have hrounds : roundsTo d (-149)
      (d.significand * binaryUnit d.exponent (-149) / gridUnit d.exponent (-149)) = true := by
    have hpoint : 4 * (d.significand * binaryUnit d.exponent (-149) / gridUnit d.exponent (-149))
        * gridUnit d.exponent (-149) = 4 * d.significand * binaryUnit d.exponent (-149) := by
      rw [mul_assoc, Nat.div_mul_cancel (hdvd.mul_left _), mul_assoc]
    have hlower : (4 * d.significand - if d.atBinadeStart then 1 else 2)
        * binaryUnit d.exponent (-149) < 4 * d.significand * binaryUnit d.exponent (-149) :=
      Nat.mul_lt_mul_of_pos_right (by split_ifs <;> omega) hunit
    have hupper : 4 * d.significand * binaryUnit d.exponent (-149)
        < (4 * d.significand + 2) * binaryUnit d.exponent (-149) :=
      Nat.mul_lt_mul_of_pos_right (by omega) hunit
    simp only [roundsTo, hpoint]
    by_cases heven : d.significand % 2 = 0
    · rw [if_pos heven]
      exact decide_eq_true ⟨hlower.le, hupper.le⟩
    · rw [if_neg heven]
      exact decide_eq_true ⟨hlower, hupper⟩
  simp only [onGrid?, hrounds]
  cases roundsTo d (-149)
      (d.significand * binaryUnit d.exponent (-149) / gridUnit d.exponent (-149) + 1) with
  | false => rfl
  | true =>
    dsimp only
    split_ifs <;> rfl

/-- The shortest decimal of a number rounds to it. -/
lemma near_shortest {d : Parts} (hd : 0 < d.significand) (hn : d.Normal) :
    Near d ((shortest d).digits * 10 ^ (shortest d).exponent) :=
  near_of_roundsTo hd (roundsTo_search (isSome_onGrid?_finest hd hn) (by omega) (by omega))

end DistanceField.Decimal
