import Mathlib
import DistanceField.Json.Literal

/-!
# Escaped text reads back

What stands between quotes is scanned up to the closing quote and no further, and it is read as the
text it was written from. So no two texts are escaped alike.
-/

namespace DistanceField.Literal

/-! ### The forms of an escaped character -/

lemma hexUnit?_control :
    ∀ n < 0x20, hexUnit? '0' '0' (hexDigit (n / 16)) (hexDigit (n % 16)) = some n := by
  decide

/-- A character is escaped by a letter, by its number, or not at all. -/
lemma escapeChar_cases (c : Char) :
    (∃ e, escapeChar c = ['\\', e] ∧ e ≠ 'u' ∧ simpleEscape? e = some c) ∨
    (∃ h l, escapeChar c = ['\\', 'u', '0', '0', h, l] ∧ hexUnit? '0' '0' h l = some c.toNat ∧
      c.toNat < 0x20) ∨
    (escapeChar c = [c] ∧ c ≠ '"' ∧ c ≠ '\\' ∧ ¬ c.toNat < 0x20) := by
  rw [escapeChar.eq_def]
  split
  case h_8 hquote hbackslash _ _ _ _ _ =>
    right
    split_ifs with hcontrol
    · exact .inl ⟨_, _, rfl, hexUnit?_control c.toNat hcontrol, hcontrol⟩
    · exact .inr ⟨rfl, hquote, hbackslash, hcontrol⟩
  all_goals exact .inl ⟨_, rfl, by decide, rfl⟩

/-! ### Reading -/

lemma unescape?_unit {a b c d : Char} {unit : Nat} (h : hexUnit? a b c d = some unit)
    (hunit : unit < 0xd800) (rest : List Char) :
    unescape? ('\\' :: 'u' :: a :: b :: c :: d :: rest)
      = (unescape? rest).map (Char.ofNat unit :: ·) := by
  have hhigh : ¬ (0xd800 ≤ unit ∧ unit < 0xdc00) := by omega
  have hlow : ¬ (0xdc00 ≤ unit ∧ unit < 0xe000) := by omega
  have hnone : ¬ (0xd800 ≤ unit ∧ unit < 0xe000) := by omega
  -- a second escape behind the first is looked at, but taken only behind a surrogate
  by_cases hnext : ∃ a' b' c' d' tail, rest = '\\' :: 'u' :: a' :: b' :: c' :: d' :: tail
  · obtain ⟨a', b', c', d', tail, rfl⟩ := hnext
    rw [unescape?.eq_2, h, Option.bind_eq_bind, Option.bind_some, if_neg hhigh, if_neg hlow]
    exact Option.map_eq_bind.symm
  · have hstep := unescape?.eq_3 a b c d rest
      fun a' b' c' d' tail hrest => hnext ⟨a', b', c', d', tail, hrest⟩
    rw [hstep, h, Option.bind_eq_bind, Option.bind_some, if_neg hnone]
    exact Option.map_eq_bind.symm

lemma unescape?_escapeChar (c : Char) (rest : List Char) :
    unescape? (escapeChar c ++ rest) = (unescape? rest).map (c :: ·) := by
  obtain ⟨e, hform, hu, he⟩ | ⟨h, l, hform, hunit, hcontrol⟩ | ⟨hform, hquote, hbackslash, -⟩ :=
    escapeChar_cases c
  · rw [hform, List.cons_append, List.singleton_append, unescape?.eq_4 e rest (by simp [hu])
      (by simp [hu]), he]
    exact Option.map_eq_bind.symm
  · have hread := unescape?_unit hunit (by omega) rest
    rw [Char.ofNat_toNat] at hread
    rw [hform, ← hread]
    rfl
  · rw [hform, List.singleton_append, unescape?.eq_5 c rest (by simp [hbackslash])
      (by simp [hbackslash]) (by simp [hbackslash])]
    exact Option.map_eq_bind.symm

/-- Escaped text is read as the text it was written from. -/
lemma unescape?_escape (cs : List Char) : unescape? (escape cs) = some cs := by
  induction cs with
  | nil => rfl
  | cons c rest ih =>
    rw [escape, List.flatMap_cons, unescape?_escapeChar, ← escape, ih]
    rfl

lemma escape_injective : Function.Injective escape := by
  intro cs ds h
  have hread := congrArg unescape? h
  rw [unescape?_escape, unescape?_escape] at hread
  exact Option.some.inj hread

/-! ### Scanning -/

lemma scan_escapeChar {c : Char} {rest cs tail : List Char} (h : scan rest = some (cs, tail)) :
    scan (escapeChar c ++ rest) = some (escapeChar c ++ cs, tail) := by
  obtain ⟨e, hform, hu, he⟩ | ⟨a, l, hform, hunit, -⟩ | ⟨hform, hquote, hbackslash, hcontrol⟩ :=
    escapeChar_cases c
  · rw [hform, List.cons_append, List.singleton_append, scan.eq_4 e rest (by simp [hu]), he, h]
    rfl
  · have hscan := scan.eq_3 '0' '0' a l rest
    rw [hunit, h] at hscan
    rw [hform]
    exact hscan
  · rw [hform, List.singleton_append, scan.eq_5 c rest hquote (by simp [hbackslash])
      (by simp [hbackslash]), if_neg (by simp [hcontrol, hbackslash]), h]
    rfl

/-- Escaped text is scanned up to the quote behind it. -/
lemma scan_escape (cs rest : List Char) :
    scan (escape cs ++ '"' :: rest) = some (escape cs, rest) := by
  induction cs with
  | nil => exact scan.eq_2 rest
  | cons c cs ih =>
    rw [escape, List.flatMap_cons, List.append_assoc]
    exact scan_escapeChar ih

end DistanceField.Literal
