import Mathlib
import DistanceField.Number.Binary32

/-!
# Parts of finite numbers

The parts of a finite number are normalized: every significand below the leading bit belongs to the
least exponent. So a number is known by its parts.
-/

namespace DistanceField.Binary32

lemma toBits_injective : Function.Injective Float32.toBits := by
  rintro ⟨⟨a, ha⟩⟩ ⟨⟨b, hb⟩⟩ h
  obtain rfl : a = b := h
  rfl

lemma fields_injective : Function.Injective fields := by
  intro x y h
  obtain ⟨hsign, hexponent, hfraction⟩ := Fields.mk.inj h
  refine toBits_injective (UInt32.toNat.inj ?_)
  have hx := x.toBits.toNat_lt
  have hy := y.toBits.toNat_lt
  have hsign : 0x80000000 ≤ x.toBits.toNat ↔ 0x80000000 ≤ y.toBits.toNat :=
    decide_eq_decide.mp hsign
  omega

/-- Parts with a significand of at most 24 bits, and all 24 of them above the least exponent. -/
structure Parts.Normal (d : Parts) : Prop where
  significand_lt : d.significand < 2 * Fields.leadingBit
  exponent_ge : -149 ≤ d.exponent
  leading : -149 < d.exponent → Fields.leadingBit ≤ d.significand

lemma normal_of_parts? {x : Float32} {d : Parts} (h : parts? x = some d) : d.Normal := by
  have hfraction : (fields x).fraction < Fields.leadingBit := Nat.mod_lt _ (by decide)
  simp only [parts?] at h
  split_ifs at h with hspecial hzero
  · obtain rfl := Option.some.inj h
    exact ⟨by dsimp only; omega, le_refl _, fun hlt => absurd hlt (lt_irrefl _)⟩
  · obtain rfl := Option.some.inj h
    exact ⟨by dsimp only; omega, by dsimp only; omega, fun _ => Nat.le_add_right _ _⟩

/-- The fields that parts were made from. -/
def Parts.toFields (d : Parts) : Fields :=
  if d.significand < Fields.leadingBit then ⟨d.negative, 0, d.significand⟩
  else ⟨d.negative, (d.exponent + 150).toNat, d.significand - Fields.leadingBit⟩

lemma toFields_of_parts? {x : Float32} {d : Parts} (h : parts? x = some d) :
    d.toFields = fields x := by
  have hfraction : (fields x).fraction < Fields.leadingBit := Nat.mod_lt _ (by decide)
  simp only [parts?] at h
  split_ifs at h with hspecial hzero
  · obtain rfl := Option.some.inj h
    rw [Parts.toFields, if_pos hfraction, ← hzero]
  · obtain rfl := Option.some.inj h
    have hexponent : ((fields x).exponent - 150 + 150 : Int).toNat = (fields x).exponent := by omega
    rw [Parts.toFields, if_neg (by dsimp only; omega), hexponent, Nat.add_sub_cancel_left]

lemma eq_of_parts? {x y : Float32} {d : Parts} (hx : parts? x = some d) (hy : parts? y = some d) :
    x = y :=
  fields_injective ((toFields_of_parts? hx).symm.trans (toFields_of_parts? hy))

open Float.Model in
lemma toNat_unpackExponent (x : Float32) :
    (@UnpackedFloat.unpackExponent Format.binary32 x.toModel.toBits.toBitVec).toNat
      = (fields x).exponent := by
  rw [UnpackedFloat.unpackExponent, BitVec.toNat_cast, BitVec.extractLsb_toNat,
    Nat.shiftRight_eq_div_pow]
  rfl

open Float.Model in
lemma isFinite_iff (x : Float32) :
    x.isFinite = true ↔ (fields x).exponent ≠ Fields.special := by
  have hall : @UnpackedFloat.unpackExponent Format.binary32 x.toModel.toBits.toBitVec = -1#8
      ↔ (fields x).exponent = Fields.special := by
    rw [← BitVec.toNat_inj, toNat_unpackExponent]
    rfl
  rw [Ne, ← hall, Float32.isFinite, Float32.Model.isFinite, Float32.Model.unpack,
    UnpackedFloat.unpack]
  constructor
  · intro h hspecial
    simp only [hspecial, if_true] at h
    split_ifs at h <;> cases h
  · intro h
    simp only [h, if_false]
    split_ifs <;> rfl

/-- A finite number has parts. -/
lemma exists_parts? {x : Float32} (h : x.isFinite = true) : ∃ d, parts? x = some d := by
  simp only [parts?, if_neg ((isFinite_iff x).mp h)]
  split_ifs <;> exact ⟨_, rfl⟩

/-- NaN and the infinities have no parts. -/
lemma parts?_eq_none {x : Float32} (h : x.isFinite = false) : parts? x = none := by
  have hspecial : (fields x).exponent = Fields.special := by
    by_contra hexponent
    rw [(isFinite_iff x).mpr hexponent] at h
    cases h
  rw [parts?, if_pos hspecial]

end DistanceField.Binary32
