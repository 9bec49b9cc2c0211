import Mathlib
import DistanceField.Json.Scalar
import DistanceField.Proofs.Decimal.Shortest
import DistanceField.Proofs.Json.RoundTrip

/-!
# Tokens of numbers

However a decimal is laid out, positional or with an exponent, its token is proper and stands for
the decimal. With what shortest decimals say about numbers, no two finite numbers are written alike,
a zero and its negative included.
-/

namespace DistanceField

open Binary32 (Parts parts? Fields)

namespace Numeral

/-! ### Digits -/

lemma natOfDigits_append (ds es : List Char) :
    natOfDigits (ds ++ es) = 10 ^ es.length * natOfDigits ds + natOfDigits es := by
  have hsplit : natOfDigits (ds ++ es) = Nat.ofDigitChars 10 es (natOfDigits ds) :=
    Nat.ofDigitChars_append 0
  rw [hsplit, Nat.ofDigitChars_eq_ofDigitChars_zero]
  rfl

lemma natOfDigits_zeros (k : Nat) : natOfDigits (List.replicate k '0') = 0 := by
  have hzeros := @Nat.ofDigitChars_replicate_zero 10 0 k
  rw [Nat.mul_zero] at hzeros
  exact hzeros

/-- Digits of a positive number do not start with zero. -/
lemma head?_toDigits {n : Nat} (h : 0 < n) : (Nat.toDigits 10 n).head? ≠ some '0' := by
  induction n using Nat.strongRecOn with
  | ind n ih =>
    rw [Nat.toDigits_eq_if (by decide)]
    split_ifs with hlt
    · intro hzero
      have hn : n.digitChar = '0' := Option.some.inj hzero
      rw [Nat.digitChar_eq_zero] at hn
      omega
    · rw [List.head?_append_of_ne_nil _ Nat.toDigits_ne_nil]
      exact ih (n / 10) (by omega) (by omega)

/-! ### Layout -/

/-- How the token of a decimal is laid out: zeros may be put to either side of the digits, and the
token starts with the digits unless there is nothing before the point. -/
structure Layout (negative : Bool) (digits : List Char) (exponent : Int) (t : Numeral) : Prop where
  negative_eq : t.negative = negative
  digits_eq : ∃ left right, t.whole ++ t.fraction
      = List.replicate left '0' ++ (digits ++ List.replicate right '0') ∧
    t.exponent.getD 0 - t.fraction.length = exponent - right
  front : t.whole = ['0'] ∨ t.whole.head? = digits.head?

lemma layout_ofDecimal (negative : Bool) (d : Decimal) :
    Layout negative (Nat.toDigits 10 d.digits) d.exponent (ofDecimal negative d) := by
  have hlength : 0 < (Nat.toDigits 10 d.digits).length := Nat.length_toDigits_pos
  simp only [ofDecimal]
  generalize Nat.toDigits 10 d.digits = digits at hlength ⊢
  split_ifs with hpositional hwhole hpoint
  · refine ⟨rfl, ⟨0, d.exponent.toNat + 1, ?_, ?_⟩, .inr ?_⟩
    · rw [List.replicate_succ', List.append_assoc]
      rfl
    · dsimp only [Option.getD_none, List.length_singleton]
      omega
    · exact List.head?_append_of_ne_nil _ (List.length_pos_iff.mp hlength)
  · refine ⟨rfl, ⟨0, 0, ?_, ?_⟩, .inr ?_⟩
    · rw [List.take_append_drop]
      simp
    · dsimp only [Option.getD_none]
      rw [List.length_drop]
      omega
    · rw [List.head?_take, if_neg (by omega)]
  · refine ⟨rfl, ⟨(-(d.exponent + digits.length - 1) - 1).toNat + 1, 0, ?_, ?_⟩, .inl rfl⟩
    · rw [List.replicate_succ, List.replicate_zero, List.append_nil]
      rfl
    · dsimp only [Option.getD_none]
      rw [List.length_append, List.length_replicate]
      omega
  · refine ⟨rfl, ⟨0, 0, ?_, ?_⟩, .inr ?_⟩
    · rw [List.take_append_drop]
      simp
    · dsimp only [Option.getD_some]
      rw [List.length_drop]
      omega
    · rw [List.head?_take, if_neg (by omega)]

/-! ### The value of a token -/

/-- The magnitude that a token stands for. -/
def magnitude (n : Numeral) : ℚ :=
  natOfDigits (n.whole ++ n.fraction) * 10 ^ (n.exponent.getD 0 - n.fraction.length)

/-- A token stands for the decimal it was made from. -/
lemma magnitude_ofDecimal (negative : Bool) (d : Decimal) :
    (ofDecimal negative d).magnitude = d.digits * 10 ^ d.exponent := by
  obtain ⟨left, right, hdigits, hexponent⟩ := (layout_ofDecimal negative d).digits_eq
  have hten : (10 : ℚ) ^ right ≠ 0 := by positivity
  rw [magnitude, hdigits, hexponent, natOfDigits_append, natOfDigits_append, natOfDigits_zeros,
    natOfDigits_zeros, natOfDigits_toDigits, List.length_replicate, zpow_sub₀ (by norm_num),
    zpow_natCast]
  push_cast
  field_simp
  ring

lemma isDigit_of_layout {negative : Bool} {n : Nat} {exponent : Int} {t : Numeral}
    (h : Layout negative (Nat.toDigits 10 n) exponent t) :
    ∀ c ∈ t.whole ++ t.fraction, c.isDigit = true := by
  intro c hc
  obtain ⟨left, right, hdigits, -⟩ := h.digits_eq
  rw [hdigits, List.mem_append, List.mem_append] at hc
  obtain hc | hc | hc := hc
  · rw [List.eq_of_mem_replicate hc]
    decide
  · exact isDigit_of_mem_toDigits hc
  · rw [List.eq_of_mem_replicate hc]
    decide

/-- The token of a positive decimal is proper. -/
lemma proper_ofDecimal (negative : Bool) {d : Decimal} (hd : 0 < d.digits) :
    (ofDecimal negative d).Proper := by
  have hlayout := layout_ofDecimal negative d
  have hdigit := isDigit_of_layout hlayout
  refine ⟨?_, fun c hc => hdigit c (List.mem_append_left _ hc), ?_,
    fun c hc => hdigit c (List.mem_append_right _ hc)⟩
  · intro hnil
    obtain hzero | hfront := hlayout.front
    · rw [hnil] at hzero
      cases hzero
    · rw [hnil, List.head?_nil] at hfront
      exact Nat.toDigits_ne_nil (List.head?_eq_none_iff.mp hfront.symm)
  · intro hzero
    refine hlayout.front.resolve_right fun hfront => ?_
    rw [hfront] at hzero
    exact head?_toDigits hd hzero

/-! ### Tokens of numbers -/

/-- The decimal that a number is written as. -/
def decimalOf (d : Parts) : Decimal :=
  if d.significand = 0 then ⟨0, 0⟩ else Decimal.shortest d

lemma near_decimalOf {d : Parts} (hd : d.significand ≠ 0) (hn : d.Normal) :
    Decimal.Near d ((decimalOf d).digits * 10 ^ (decimalOf d).exponent) := by
  rw [decimalOf, if_neg hd]
  exact Decimal.near_shortest (Nat.pos_of_ne_zero hd) hn

/-- Only a zero is written as zero. -/
lemma digits_decimalOf_pos {d : Parts} (hd : d.significand ≠ 0) (hn : d.Normal) :
    0 < (decimalOf d).digits := by
  have hpos := (near_decimalOf hd hn).pos (Nat.pos_of_ne_zero hd)
  refine Nat.pos_of_ne_zero fun hzero => ?_
  rw [hzero, Nat.cast_zero, zero_mul] at hpos
  exact lt_irrefl _ hpos

lemma proper_ofDecimal_decimalOf {d : Parts} (hn : d.Normal) :
    (ofDecimal d.negative (decimalOf d)).Proper := by
  by_cases hd : d.significand = 0
  · have hdigit : ∀ c ∈ ['0'], c.isDigit = true := by
      rintro c hc
      rw [List.mem_singleton.mp hc]
      decide
    rw [decimalOf, if_pos hd]
    exact ⟨List.cons_ne_nil _ _, hdigit, fun _ => rfl, hdigit⟩
  · exact proper_ofDecimal d.negative (digits_decimalOf_pos hd hn)

/-- A decimal and a sign tell the parts that they are written from. -/
lemma eq_of_decimalOf {d e : Parts} (hdn : d.Normal) (hen : e.Normal)
    (hvalue : ((decimalOf d).digits * 10 ^ (decimalOf d).exponent : ℚ)
      = (decimalOf e).digits * 10 ^ (decimalOf e).exponent) :
    d.significand = e.significand ∧ d.exponent = e.exponent := by
  have hzero : ∀ {a b : Parts}, a.significand = 0 → b.Normal →
      ((decimalOf a).digits * 10 ^ (decimalOf a).exponent : ℚ)
        = (decimalOf b).digits * 10 ^ (decimalOf b).exponent → b.significand = 0 := by
    intro a b ha hbn hab
    by_contra hb
    have hpos := (near_decimalOf hb hbn).pos (Nat.pos_of_ne_zero hb)
    rw [← hab, decimalOf, if_pos ha, Nat.cast_zero, zero_mul] at hpos
    exact lt_irrefl _ hpos
  have hleast : ∀ {a : Parts}, a.Normal → a.significand = 0 → a.exponent = -149 := by
    intro a han ha
    have hge := han.exponent_ge
    have hleading := han.leading
    rw [ha, Fields.leadingBit] at hleading
    omega
  by_cases hd : d.significand = 0
  · -- a zero has no interval; it is known by its exponent
    have he := hzero hd hen hvalue
    exact ⟨hd.trans he.symm, (hleast hdn hd).trans (hleast hen he).symm⟩
  · have he : e.significand ≠ 0 := fun he => hd (hzero he hdn hvalue.symm)
    have hnear := near_decimalOf hd hdn
    rw [hvalue] at hnear
    exact hnear.eq (near_decimalOf he hen) hdn hen

/-- The token of a number is proper. -/
lemma proper_of_ofBinary32? {x : Float32} {t : Numeral} (h : ofBinary32? x = some t) :
    t.Proper := by
  obtain ⟨d, hd, rfl⟩ := Option.map_eq_some_iff.mp h
  exact proper_ofDecimal_decimalOf (Binary32.normal_of_parts? hd)

/-- No two numbers have the same token. -/
lemma eq_of_ofBinary32? {x y : Float32} {t : Numeral} (hx : ofBinary32? x = some t)
    (hy : ofBinary32? y = some t) : x = y := by
  obtain ⟨d, hd, rfl⟩ := Option.map_eq_some_iff.mp hx
  obtain ⟨e, he, hde⟩ := Option.map_eq_some_iff.mp hy
  have hde : ofDecimal e.negative (decimalOf e) = ofDecimal d.negative (decimalOf d) := hde
  have hsign : d.negative = e.negative := by
    rw [← (layout_ofDecimal d.negative (decimalOf d)).negative_eq, ← hde,
      (layout_ofDecimal e.negative (decimalOf e)).negative_eq]
  have hmagnitude := congrArg magnitude hde
  rw [magnitude_ofDecimal, magnitude_ofDecimal] at hmagnitude
  obtain ⟨hsignificand, hexponent⟩ := eq_of_decimalOf (Binary32.normal_of_parts? hd)
    (Binary32.normal_of_parts? he) hmagnitude.symm
  obtain ⟨negative, significand, exponent⟩ := d
  obtain rfl : e = ⟨negative, significand, exponent⟩ := by
    cases e
    simp_all
  exact Binary32.eq_of_parts? hd he

end Numeral

lemma Json.proper_toJson (x : Float32) : (JsonScalar.toJson x).Proper := by
  change (Json.optional .number (Numeral.ofBinary32? x)).Proper
  cases h : Numeral.ofBinary32? x with
  | none => exact .null
  | some t => exact .number (Numeral.proper_of_ofBinary32? h)

/-- A finite number is written as a token. -/
lemma Json.exists_toJson_eq {x : Float32} (hx : x.isFinite = true) :
    ∃ t, Numeral.ofBinary32? x = some t ∧ JsonScalar.toJson x = Json.number t := by
  obtain ⟨d, hd⟩ := Binary32.exists_parts? hx
  have ht : Numeral.ofBinary32? x = some _ := Option.map_eq_some_iff.mpr ⟨d, hd, rfl⟩
  exact ⟨_, ht, congrArg (Json.optional .number) ht⟩

/-- Finite numbers with the same document are the same number. -/
lemma Json.eq_of_toJson_eq {x y : Float32} (hx : x.isFinite = true) (hy : y.isFinite = true)
    (h : JsonScalar.toJson x = JsonScalar.toJson y) : x = y := by
  obtain ⟨t, hxt, hxj⟩ := Json.exists_toJson_eq hx
  obtain ⟨u, hyu, hyj⟩ := Json.exists_toJson_eq hy
  rw [hxj, hyj] at h
  exact Numeral.eq_of_ofBinary32? hxt (hyu.trans (congrArg some (Json.number.inj h).symm))

end DistanceField
