import Mathlib
import DistanceField.Shader.Expr

/-!
# Names of variables

A name starts with the part that its variable plays and goes on with the identifier of a node; the
steps of a fold are also numbered. Identifiers may themselves hold underscores and digits. Still,
different variables have different names: the first character tells the part, and a number holds no
underscore, so the last underscore of a numbered name is the one in front of its number.
-/

namespace DistanceField.Shader

/-- A text is taken apart at the last occurrence of a character in one way. -/
lemma append_cons_inj_of_notMem_right {c : Char} {xs ys ds es : List Char} (hd : c ∉ ds)
    (he : c ∉ es) (h : xs ++ c :: ds = ys ++ c :: es) : xs = ys ∧ ds = es := by
  rcases List.append_eq_append_iff.mp h with ⟨as, rfl, has⟩ | ⟨as, rfl, has⟩
  · cases as with
    | nil => simpa using has
    | cons a as =>
      have hds : ds = as ++ c :: es := (List.cons_eq_cons.mp has).2
      exact absurd (hds ▸ List.mem_append_right as List.mem_cons_self) hd
  · cases as with
    | nil => simpa using has.symm
    | cons a as =>
      have hes : es = as ++ c :: ds := (List.cons_eq_cons.mp has).2
      exact absurd (hes ▸ List.mem_append_right as List.mem_cons_self) he

lemma toDigits_injective : Function.Injective (Nat.toDigits 10) := by
  intro i j h
  have := congrArg (Nat.ofDigitChars 10 · 0) h
  simpa using this

namespace Variable

/-- The identifier in the name of a variable; the sample point has none. -/
def owner? : Variable → Option String
  | .input => none
  | .point id | .distance id | .displaced id | .result id | .step id _ | .cutter id _ => some id

/-- An identifier and a number can be read off what they are joined to. -/
lemma numbered_inj {id id' : String} {i j : Nat}
    (h : id.toList ++ '_' :: Nat.toDigits 10 i = id'.toList ++ '_' :: Nat.toDigits 10 j) :
    id = id' ∧ i = j := by
  obtain ⟨hid, hij⟩ := append_cons_inj_of_notMem_right Nat.underscore_not_in_toDigits
    Nat.underscore_not_in_toDigits h
  exact ⟨String.toList_inj.mp hid, toDigits_injective hij⟩

lemma name_injective : Function.Injective name := by
  intro v w h
  have h := congrArg String.toList h
  cases v <;> cases w <;>
    simp only [name, String.toList_append, Nat.toList_repr] at h <;> simp at h ⊢
  case point.point | distance.distance | displaced.displaced | result.result =>
    exact String.toList_inj.mp h
  case step.step | cutter.cutter =>
    exact numbered_inj h

end Variable

end DistanceField.Shader
