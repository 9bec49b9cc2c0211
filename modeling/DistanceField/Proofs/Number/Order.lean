import Mathlib
import DistanceField.Number.Binary32
import DistanceField.Plan

/-!
# The order of numbers

`OrderedScalar` lists what is used of an order on scalars. Not every scalar needs to be a number:
one that is not comes with no comparison, not even to itself. Zero may have several forms, and
nothing is said on which of two equal operands `min` and `max` give.

Binary32 numbers are ordered in this sense. A number is ranked by its bits, read as an integer with
a sign, and comparing numbers is comparing their ranks.
-/

namespace DistanceField

/-- Laws of an order on scalars. What is not below itself is not a number. -/
class OrderedScalar (α : Type) [Scalar α] [LE α] [LT α] : Prop where
  lt_iff {x y : α} : x < y ↔ x ≤ y ∧ ¬ y ≤ x
  le_self {x y : α} : x ≤ y → x ≤ x ∧ y ≤ y
  le_trans {x y z : α} : x ≤ y → y ≤ z → x ≤ z
  le_total {x y : α} : x ≤ x → y ≤ y → x ≤ y ∨ y ≤ x
  isZero_iff {x : α} : Scalar.isZero x = true ↔ x ≤ 0.0 ∧ (0.0 : α) ≤ x
  min_le {x y : α} : x ≤ x → y ≤ y → Scalar.min x y ≤ x ∧ Scalar.min x y ≤ y
  min_eq {x y : α} : Scalar.min x y = x ∨ Scalar.min x y = y
  le_max {x y : α} : x ≤ x → y ≤ y → x ≤ Scalar.max x y ∧ y ≤ Scalar.max x y
  max_eq {x y : α} : Scalar.max x y = x ∨ Scalar.max x y = y
  neg_le_neg_iff {x y : α} : -x ≤ -y ↔ y ≤ x
  neg_zero : (-0.0 : α) ≤ 0.0 ∧ (0.0 : α) ≤ -0.0
  zero_lt_infinity : (0.0 : α) < Scalar.infinity
  zero_lt_sentinel : (0.0 : α) < sentinel

namespace Binary32

open Float.Model (Format UnpackedFloat)
open Float.Model.UnpackedFloat

/-! ### Taking numbers apart -/

lemma toNat_leading_append (m : BitVec 23) : (1#1 ++ m).toNat = 0x800000 + m.toNat := by
  rw [BitVec.toNat_append, ← Nat.shiftLeft_add_eq_or_of_lt m.isLt]
  rfl

/-- The number with a sign, an exponent field and a fraction field. -/
def ofFields (s : Sign) (e : BitVec 8) (m : BitVec 23) : UnpackedFloat :=
  if e = -1#8 then if m = 0#23 then .infinity s else .notANumber
  else if e = 0#8 then
    if h : m = 0#23 then .zero s
    else .finite s m.toNat (-149) (m.toNat_pos.mpr (m.pos_iff_ne_zero.mpr h))
  else .finite s (0x800000 + m.toNat) (e.toNat - 150) (by omega)

lemma unpack_eq (b : BitVec 32) :
    unpack .binary32 b = ofFields (.ofBitVec (@unpackSign .binary32 b))
      (@unpackExponent .binary32 b) (@unpackMantissa .binary32 b) := by
  have hbias : Format.binary32.exponentBias = 127 := rfl
  simp only [UnpackedFloat.unpack, ofFields, hbias]
  split_ifs with h1 h2 h3
  · rfl
  · rfl
  · rfl
  · simp [h3]
  · simp [toNat_leading_append]

lemma unpackSign_packComponents (spec : Format) (s : Sign) (e : BitVec spec.exponentBits)
    (m : BitVec spec.mantissaBitsWithoutImplicit) :
    unpackSign (packComponents spec s e m) = s.toBitVec := by
  ext i hi
  obtain rfl : i = 0 := by omega
  simp [unpackSign, packComponents, BitVec.getLsbD_append, BitVec.getElem_append]

lemma unpack_packComponents (s : Sign) (e : BitVec 8) (m : BitVec 23) :
    unpack .binary32 (packComponents .binary32 s e m) = ofFields s e m := by
  rw [unpack_eq, unpackSign_packComponents, unpackExponent_packComponents,
    unpackMantissa_packComponents]
  cases s <;> rfl

lemma pack_finite (s : Sign) {m : Nat} {e : Int} (hm : 0 < m) (hle : -149 ≤ e) (hge : e ≤ 104) :
    pack .binary32 (.finite s m e hm) = packComponents .binary32 s
      (if m.log2 + 1 = 24 then .ofNat 8 (e + 150).toNat else 0#8) (.ofNat 23 m) := by
  have hbias : Format.binary32.exponentBias = 127 := rfl
  have hbits : Format.binary32.mantissaBits = 24 := rfl
  have hbiased : e + (127 : Nat) + (23 : Nat) = e + 150 := by omega
  simp only [UnpackedFloat.pack, hbias, hbits]
  rw [hbiased, if_neg (by omega), apply_ite (fun e => packComponents .binary32 s e _)]

/-- Putting fields together and taking them apart again gives the same fields. -/
lemma unpack_pack_ofFields (s : Sign) (e : BitVec 8) (m : BitVec 23) :
    unpack .binary32 (pack .binary32 (ofFields s e m)) = ofFields s e m := by
  have hm := m.isLt
  have he := e.isLt
  by_cases htop : e = -1#8
  · subst htop
    by_cases hzero : m = 0#23
    · subst hzero
      exact unpack_packComponents s _ _
    · have hnan : ofFields s (-1#8) m = .notANumber := by simp [ofFields, hzero]
      rw [hnan]
      rfl
  by_cases hbottom : e = 0#8
  · subst hbottom
    by_cases hzero : m = 0#23
    · subst hzero
      exact unpack_packComponents s _ _
    · have hlog : ¬ m.toNat.log2 + 1 = 24 := by
        have hpos := m.toNat_pos.mpr (m.pos_iff_ne_zero.mpr hzero)
        have := (Nat.log2_lt hpos.ne').mpr hm
        omega
      have hpack : pack .binary32 (ofFields s 0#8 m) = packComponents .binary32 s 0#8 m := by
        rw [ofFields, if_neg htop, if_pos rfl, dif_neg hzero, pack_finite _ _ (by omega) (by omega),
          if_neg hlog, BitVec.ofNat_toNat, BitVec.setWidth_eq]
      rw [hpack, unpack_packComponents]
  · have htop' : e.toNat ≠ 255 := fun h => htop (BitVec.eq_of_toNat_eq h)
    have hbottom' : e.toNat ≠ 0 := fun h => hbottom (BitVec.eq_of_toNat_eq h)
    have hlog : (0x800000 + m.toNat).log2 + 1 = 24 := by
      have hlow := (Nat.le_log2 (by omega)).mpr (show 2 ^ 23 ≤ 0x800000 + m.toNat by omega)
      have hhigh := (Nat.log2_lt (by omega)).mpr (show 0x800000 + m.toNat < 2 ^ 24 by omega)
      omega
    have hexponent : BitVec.ofNat 8 (e.toNat - 150 + 150 : Int).toNat = e := by
      rw [show (e.toNat - 150 + 150 : Int).toNat = e.toNat by omega, BitVec.ofNat_toNat,
        BitVec.setWidth_eq]
    have hfraction : BitVec.ofNat 23 (0x800000 + m.toNat) = m := by
      apply BitVec.eq_of_toNat_eq
      rw [BitVec.toNat_ofNat]
      omega
    have hpack : pack .binary32 (ofFields s e m) = packComponents .binary32 s e m := by
      rw [ofFields, if_neg htop, if_neg hbottom, pack_finite _ _ (by omega) (by omega), if_pos hlog,
        hexponent, hfraction]
    rw [hpack, unpack_packComponents]

lemma neg_ofFields (s : Sign) (e : BitVec 8) (m : BitVec 23) :
    (ofFields s e m).neg = ofFields (-s) e m := by
  simp only [ofFields]
  split_ifs <;> rfl

lemma exists_ofFields (x : Float32) : ∃ s e m, x.toModel.unpack = ofFields s e m :=
  ⟨_, _, _, unpack_eq _⟩

lemma unpack_neg (x : Float32) : (-x).toModel.unpack = x.toModel.unpack.neg := by
  have hneg : (-x).toModel.unpack = unpack .binary32 (pack .binary32 x.toModel.unpack.neg) := rfl
  obtain ⟨s, e, m, hx⟩ := exists_ofFields x
  rw [hneg, hx, neg_ofFields, unpack_pack_ofFields]

/-! ### Ranks -/

/-- A magnitude with a sign. -/
def signed (magnitude : ℤ) : Sign → ℤ
  | .positive => magnitude
  | .negative => -magnitude

/-- The rank of a number; none for what is not a number. -/
def rank? : UnpackedFloat → Option ℤ
  | .notANumber => none
  | .infinity s => some (signed (255 * 0x800000) s)
  | .zero _ => some 0
  | .finite s m e _ => some (signed ((e + 149) * 0x800000 + m) s)

/-- Significands have 24 bits, or fewer at the least exponent. -/
def Canonical : UnpackedFloat → Prop
  | .finite _ m e _ => m < 0x1000000 ∧ -149 ≤ e ∧ e ≤ 104 ∧ (-149 < e → 0x800000 ≤ m)
  | _ => True

lemma canonical_ofFields (s : Sign) (e : BitVec 8) (m : BitVec 23) :
    Canonical (ofFields s e m) := by
  have hm := m.isLt
  have he := e.isLt
  rw [ofFields]
  split_ifs with htop hzero hbottom hzero
  · trivial
  · trivial
  · trivial
  · exact ⟨by omega, by omega, by omega, by omega⟩
  · have htop' : e.toNat ≠ 255 := fun h => htop (BitVec.eq_of_toNat_eq h)
    have hbottom' : e.toNat ≠ 0 := fun h => hbottom (BitVec.eq_of_toNat_eq h)
    exact ⟨by omega, by omega, by omega, by omega⟩

/-- An exponent counts more than any significand. -/
lemma compare_then_compare {m m' : Nat} {e e' : Int} {s s' : Sign} {hm : 0 < m} {hm' : 0 < m'}
    (h : Canonical (.finite s m e hm)) (h' : Canonical (.finite s' m' e' hm')) :
    (compare e e').then (compare m m')
      = compare ((e + 149) * 0x800000 + m) ((e' + 149) * 0x800000 + m') := by
  obtain ⟨hlt, hle, hge, hleading⟩ := h
  obtain ⟨hlt', hle', hge', hleading'⟩ := h'
  rcases lt_trichotomy e e' with he | rfl | he
  · rw [compare_lt_iff_lt.mpr he]
    exact (compare_lt_iff_lt.mpr (by omega)).symm
  · rw [compare_eq_iff_eq.mpr rfl]
    rcases lt_trichotomy m m' with hm | rfl | hm
    · rw [compare_lt_iff_lt.mpr hm]
      exact (compare_lt_iff_lt.mpr (by omega)).symm
    · rw [compare_eq_iff_eq.mpr rfl, compare_eq_iff_eq.mpr rfl]
      rfl
    · rw [compare_gt_iff_gt.mpr hm]
      exact (compare_gt_iff_gt.mpr (by omega)).symm
  · rw [compare_gt_iff_gt.mpr he]
    exact (compare_gt_iff_gt.mpr (by omega)).symm

lemma magnitude_bounds {s : Sign} {m : Nat} {e : Int} {hm : 0 < m}
    (h : Canonical (.finite s m e hm)) :
    0 < (e + 149) * 0x800000 + m ∧ (e + 149) * 0x800000 + m < 255 * 0x800000 := by
  obtain ⟨hlt, hle, hge, -⟩ := h
  constructor <;> omega

lemma compare_neg_neg (r r' : ℤ) : compare (-r) (-r') = (compare r r').swap := by
  have hanti : StrictAnti (fun r : ℤ => -r) := fun _ _ => neg_lt_neg
  rw [Int.compare_swap, ← cmp_eq_compare, ← cmp_eq_compare]
  exact hanti.cmp_map_eq r r'

/-- Numbers compare like their ranks. -/
lemma compare_eq {a b : UnpackedFloat} (ha : Canonical a) (hb : Canonical b) :
    a.compare b = Option.map₂ compare (rank? a) (rank? b) := by
  cases a with
  | notANumber => rfl
  | infinity s =>
    cases b with
    | notANumber => cases s <;> rfl
    | infinity s' => cases s <;> cases s' <;> rfl
    | zero s' => cases s <;> rfl
    | finite s' m' e' hm' =>
      have hbounds := magnitude_bounds hb
      cases s with
      | negative =>
        refine congrArg some (compare_lt_iff_lt.mpr ?_).symm
        cases s' <;> simp only [signed] <;> omega
      | positive =>
        refine congrArg some (compare_gt_iff_gt.mpr ?_).symm
        cases s' <;> simp only [signed] <;> omega
  | zero s =>
    cases b with
    | notANumber => rfl
    | infinity s' => cases s' <;> rfl
    | zero s' => rfl
    | finite s' m' e' hm' =>
      have hbounds := magnitude_bounds hb
      cases s' with
      | negative =>
        refine congrArg some (compare_gt_iff_gt.mpr ?_).symm
        simp only [signed]
        omega
      | positive => exact congrArg some (compare_lt_iff_lt.mpr hbounds.1).symm
  | finite s m e hm =>
    have hbounds := magnitude_bounds ha
    cases b with
    | notANumber => rfl
    | infinity s' =>
      cases s' with
      | negative =>
        refine congrArg some (compare_gt_iff_gt.mpr ?_).symm
        cases s <;> simp only [signed] <;> omega
      | positive =>
        refine congrArg some (compare_lt_iff_lt.mpr ?_).symm
        cases s <;> simp only [signed] <;> omega
    | zero s' =>
      cases s with
      | negative =>
        refine congrArg some (compare_lt_iff_lt.mpr ?_).symm
        simp only [signed]
        omega
      | positive => exact congrArg some (compare_gt_iff_gt.mpr hbounds.1).symm
    | finite s' m' e' hm' =>
      have hbounds' := magnitude_bounds hb
      have hmagnitude := compare_then_compare ha hb
      cases s <;> cases s'
      · refine congrArg some ?_
        simp only [signed]
        rw [compare_neg_neg, ← hmagnitude]
      · refine congrArg some (compare_lt_iff_lt.mpr ?_).symm
        simp only [signed]
        omega
      · refine congrArg some (compare_gt_iff_gt.mpr ?_).symm
        simp only [signed]
        omega
      · exact congrArg some hmagnitude

lemma rank?_neg (a : UnpackedFloat) : rank? a.neg = (rank? a).map (- ·) := by
  cases a with
  | notANumber => rfl
  | infinity s => cases s <;> rfl
  | zero s => rfl
  | finite s m e hm =>
    refine congrArg some ?_
    cases s
    · exact (neg_neg _).symm
    · rfl

/-! ### The order -/

/-- The rank of a binary32 number. -/
def rankOf? (x : Float32) : Option ℤ := rank? x.toModel.unpack

lemma rankOf?_neg (x : Float32) : rankOf? (-x) = (rankOf? x).map (- ·) := by
  rw [rankOf?, unpack_neg, rank?_neg]
  rfl

lemma compare_unpack (x y : Float32) :
    x.toModel.unpack.compare y.toModel.unpack = Option.map₂ compare (rankOf? x) (rankOf? y) := by
  obtain ⟨s, e, m, hx⟩ := exists_ofFields x
  obtain ⟨s', e', m', hy⟩ := exists_ofFields y
  rw [rankOf?, rankOf?, hx, hy]
  exact compare_eq (canonical_ofFields s e m) (canonical_ofFields s' e' m')

lemma le_iff {x y : Float32} : x ≤ y ↔ ∃ r ∈ rankOf? x, ∃ r' ∈ rankOf? y, r ≤ r' := by
  have hle : x ≤ y ↔ (x.toModel.unpack.compare y.toModel.unpack).any (·.isLE) = true := by
    exact decide_eq_true_iff
  rw [hle, compare_unpack]
  cases rankOf? x <;> cases rankOf? y <;> simp [Int.isLE_compare]

lemma lt_iff {x y : Float32} : x < y ↔ ∃ r ∈ rankOf? x, ∃ r' ∈ rankOf? y, r < r' := by
  have hlt : x < y ↔ (x.toModel.unpack.compare y.toModel.unpack == some .lt) = true := by
    exact decide_eq_true_iff
  rw [hlt, compare_unpack]
  cases rankOf? x <;> cases rankOf? y <;> simp [compare_lt_iff_lt]

lemma beq_iff {x y : Float32} : (x == y) = true ↔ x ≤ y ∧ y ≤ x := by
  have hbeq : (x == y) = (x.toModel.unpack.compare y.toModel.unpack == some .eq) := rfl
  rw [hbeq, compare_unpack, le_iff, le_iff]
  cases rankOf? x with
  | none => simp
  | some r =>
    cases rankOf? y with
    | none => simp
    | some r' => simpa using le_antisymm_iff

lemma isNaN_iff {x : Float32} : x.isNaN = true ↔ rankOf? x = none := by
  have hnan : x.isNaN = x.toModel.unpack.isNaN := rfl
  rw [hnan, rankOf?]
  cases x.toModel.unpack <;> simp [UnpackedFloat.isNaN, rank?]

lemma le_self_iff {x : Float32} : x ≤ x ↔ ∃ r, rankOf? x = some r := by
  rw [le_iff]
  cases rankOf? x <;> simp

lemma le_total {x y : Float32} (hx : x ≤ x) (hy : y ≤ y) : x ≤ y ∨ y ≤ x := by
  obtain ⟨r, hr⟩ := le_self_iff.mp hx
  obtain ⟨r', hr'⟩ := le_self_iff.mp hy
  rcases Int.le_total r r' with h | h
  · exact .inl (le_iff.mpr ⟨r, hr, r', hr', h⟩)
  · exact .inr (le_iff.mpr ⟨r', hr', r, hr, h⟩)

lemma not_isNaN_of_le {x : Float32} (h : x ≤ x) : ¬ x.isNaN = true := by
  rw [isNaN_iff]
  obtain ⟨r, hr⟩ := le_self_iff.mp h
  simp [hr]

lemma min_le {x y : Float32} (hx : x ≤ x) (hy : y ≤ y) : min x y ≤ x ∧ min x y ≤ y := by
  rw [min]
  split_ifs with h
  · exact ⟨hx, h.resolve_right (not_isNaN_of_le hy)⟩
  · exact ⟨(le_total hx hy).resolve_left fun hle => h (.inl hle), hy⟩

lemma le_max {x y : Float32} (hx : x ≤ x) (hy : y ≤ y) : x ≤ max x y ∧ y ≤ max x y := by
  rw [max]
  split_ifs with h
  · exact ⟨hx, h.resolve_right (not_isNaN_of_le hy)⟩
  · exact ⟨(le_total hx hy).resolve_right fun hle => h (.inl hle), hy⟩

lemma neg_le_neg_iff {x y : Float32} : -x ≤ -y ↔ y ≤ x := by
  rw [le_iff, le_iff, rankOf?_neg, rankOf?_neg]
  cases rankOf? x <;> cases rankOf? y <;> simp

instance : OrderedScalar Float32 where
  lt_iff {x y} := by
    rw [lt_iff, le_iff, le_iff]
    cases rankOf? x with
    | none => simp
    | some r =>
      cases rankOf? y with
      | none => simp
      | some r' => simpa using le_of_lt
  le_self {x y} h := by
    obtain ⟨r, hr, r', hr', -⟩ := le_iff.mp h
    exact ⟨le_self_iff.mpr ⟨r, hr⟩, le_self_iff.mpr ⟨r', hr'⟩⟩
  le_trans {x y z} hxy hyz := by
    rw [le_iff] at hxy hyz ⊢
    obtain ⟨r, hr, s, hs, hrs⟩ := hxy
    obtain ⟨s', hs', t, ht, hst⟩ := hyz
    obtain rfl := Option.mem_unique hs hs'
    exact ⟨r, hr, t, ht, hrs.trans hst⟩
  le_total := le_total
  isZero_iff := beq_iff
  min_le := min_le
  min_eq {x y} := ite_eq_or_eq _ x y
  le_max := le_max
  max_eq {x y} := ite_eq_or_eq _ x y
  neg_le_neg_iff := neg_le_neg_iff
  neg_zero := by decide +kernel
  zero_lt_infinity := by decide +kernel
  zero_lt_sentinel := by decide +kernel

end Binary32

end DistanceField
