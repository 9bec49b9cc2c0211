import Mathlib
import DistanceField.Json.Numeral

/-!
# Number tokens read back

A proper token has digits in both parts and no leading zero. It is scanned from its text, whatever
follows it, as long as that cannot belong to a number.
-/

namespace DistanceField.Numeral

/-- A token as the grammar of numbers allows it. -/
structure Proper (n : Numeral) : Prop where
  whole_ne : n.whole ≠ []
  whole_digits : ∀ c ∈ n.whole, c.isDigit = true
  whole_zero : n.whole.head? = some '0' → n.whole = ['0']
  fraction_digits : ∀ c ∈ n.fraction, c.isDigit = true

/-- Text that cannot continue a number. -/
def Ends (rest : List Char) : Prop :=
  ∀ c ∈ rest.head?, c.isDigit = false ∧ c ≠ '.' ∧ c ≠ 'e' ∧ c ≠ 'E'

lemma natOfDigits_toDigits (n : Nat) : natOfDigits (Nat.toDigits 10 n) = n :=
  Nat.ofDigitChars_ten_toDigits

lemma isDigit_of_mem_toDigits {c : Char} {n : Nat} (h : c ∈ Nat.toDigits 10 n) :
    c.isDigit = true :=
  Nat.isDigit_of_mem_toDigits (by decide) (by decide) h

/-! ### Scanning the parts -/

lemma scanDigits_append {ds rest : List Char} (hne : ds ≠ []) (hds : ∀ c ∈ ds, c.isDigit = true)
    (hrest : ∀ c ∈ rest.head?, c.isDigit = false) :
    scanDigits (ds ++ rest) = some (ds, rest) := by
  have htake : rest.takeWhile Char.isDigit = [] := by
    cases rest with
    | nil => rfl
    | cons c rest => exact List.takeWhile_cons_of_neg (by simp [hrest c rfl])
  have hdrop : rest.dropWhile Char.isDigit = rest := by
    cases rest with
    | nil => rfl
    | cons c rest => exact List.dropWhile_cons_of_neg (by simp [hrest c rfl])
  have hspan : (ds ++ rest).span Char.isDigit = (ds, rest) := by
    rw [List.span_eq_takeWhile_dropWhile, List.takeWhile_append_of_pos hds,
      List.dropWhile_append_of_pos hds, htake, hdrop, List.append_nil]
  rw [scanDigits, hspan]
  simp [hne]

lemma scanWhole_append {n : Numeral} {rest : List Char} (h : n.Proper)
    (hrest : ∀ c ∈ rest.head?, c.isDigit = false) :
    scanWhole (n.whole ++ rest) = some (n.whole, rest) := by
  by_cases hzero : n.whole.head? = some '0'
  · rw [h.whole_zero hzero]
    rfl
  · have hscan := scanDigits_append h.whole_ne h.whole_digits hrest
    cases hwhole : n.whole with
    | nil => exact absurd hwhole h.whole_ne
    | cons c ds =>
      rw [hwhole] at hscan hzero
      rw [← hscan]
      refine scanWhole.eq_2 _ fun tail htail => hzero ?_
      rw [List.head?_cons, (List.cons.inj htail).1]

lemma scanFraction_append {ds rest : List Char} (hds : ∀ c ∈ ds, c.isDigit = true)
    (hrest : ∀ c ∈ rest.head?, c.isDigit = false ∧ c ≠ '.') :
    scanFraction ((if ds.isEmpty then [] else '.' :: ds) ++ rest) = some (ds, rest) := by
  cases ds with
  | nil =>
    refine scanFraction.eq_2 _ fun tail htail => ?_
    have hpoint : rest = '.' :: tail := htail
    exact (hrest '.' (by rw [hpoint]; rfl)).2 rfl
  | cons d ds => exact scanDigits_append (List.cons_ne_nil d ds) hds fun c hc => (hrest c hc).1

lemma scanPower_append {e : Int} {rest : List Char}
    (hrest : ∀ c ∈ rest.head?, c.isDigit = false) :
    scanPower ((if e < 0 then '-' else '+') :: (Nat.toDigits 10 e.natAbs ++ rest))
      = some (e, rest) := by
  have hscan : scanDigits (Nat.toDigits 10 e.natAbs ++ rest)
      = some (Nat.toDigits 10 e.natAbs, rest) :=
    scanDigits_append Nat.toDigits_ne_nil (fun c hc => isDigit_of_mem_toDigits hc) hrest
  have hvalue := natOfDigits_toDigits e.natAbs
  split_ifs with hneg
  · rw [scanPower, hscan, Option.map_some]
    simp only [hvalue, Option.some.injEq, Prod.mk.injEq, and_true]
    omega
  · rw [scanPower, hscan, Option.map_some]
    simp only [hvalue, Option.some.injEq, Prod.mk.injEq, and_true]
    omega

lemma scanExponent_append {e : Option Int} {rest : List Char} (hrest : Ends rest) :
    scanExponent (renderExponent e ++ rest) = some (e, rest) := by
  cases e with
  | none =>
    refine scanExponent.eq_3 _ (fun tail htail => ?_) fun tail htail => ?_
    · have he : rest = 'e' :: tail := htail
      exact (hrest 'e' (by rw [he]; rfl)).2.2.1 rfl
    · have he : rest = 'E' :: tail := htail
      exact (hrest 'E' (by rw [he]; rfl)).2.2.2 rfl
  | some e =>
    rw [renderExponent, List.cons_append, List.cons_append, scanExponent,
      scanPower_append fun c hc => (hrest c hc).1]
    rfl

lemma head?_renderExponent {e : Option Int} {rest : List Char} (hrest : Ends rest) :
    ∀ c ∈ (renderExponent e ++ rest).head?, c.isDigit = false ∧ c ≠ '.' := by
  intro c hc
  cases e with
  | none => exact ⟨(hrest c hc).1, (hrest c hc).2.1⟩
  | some e =>
    obtain rfl : 'e' = c := Option.some.inj hc
    decide

lemma head?_fraction {ds rest : List Char}
    (hrest : ∀ c ∈ rest.head?, c.isDigit = false ∧ c ≠ '.') :
    ∀ c ∈ ((if ds.isEmpty then [] else '.' :: ds) ++ rest).head?, c.isDigit = false := by
  intro c hc
  cases ds with
  | nil => exact (hrest c hc).1
  | cons d ds =>
    obtain rfl : '.' = c := Option.some.inj hc
    decide

lemma scanSign_append {n : Numeral} (rest : List Char) (h : n.Proper) :
    scanSign ((if n.negative then ['-'] else []) ++ (n.whole ++ rest))
      = (n.negative, n.whole ++ rest) := by
  cases hsign : n.negative with
  | true => rfl
  | false =>
    refine scanSign.eq_2 _ fun tail htail => ?_
    cases hwhole : n.whole with
    | nil => exact h.whole_ne hwhole
    | cons c ds =>
      rw [hwhole] at htail
      obtain rfl : c = '-' := (List.cons.inj htail).1
      have hdigit := h.whole_digits '-' (by rw [hwhole]; exact List.mem_cons_self)
      exact absurd hdigit (by decide)

/-- A proper token is scanned from its text. -/
lemma scan_render_append {n : Numeral} {rest : List Char} (h : n.Proper) (hrest : Ends rest) :
    scan (n.render ++ rest) = some (n, rest) := by
  have hexponent := head?_renderExponent (e := n.exponent) hrest
  rw [render, List.append_assoc, List.append_assoc, List.append_assoc, scan, scanSign_append _ h]
  simp only [scanWhole_append h (head?_fraction hexponent), Option.bind_eq_bind, Option.bind_some,
    scanFraction_append h.fraction_digits hexponent, scanExponent_append hrest]
  rfl

end DistanceField.Numeral
