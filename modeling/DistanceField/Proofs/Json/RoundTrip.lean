import Mathlib
import DistanceField.Json.Reader
import DistanceField.Proofs.Json.Literal
import DistanceField.Proofs.Json.Numeral

/-!
# Documents read back

A proper document, whose strings are escaped texts and whose numbers are proper tokens, is read from
the text it is written as. So no two proper documents are written alike.
-/

namespace DistanceField.Json

/-- A document whose tokens are written the way texts and numbers are. -/
inductive Proper : Json → Prop
  | null : Proper .null
  | bool (value : Bool) : Proper (.bool value)
  | number {token : Numeral} (h : token.Proper) : Proper (.number token)
  | string (cs : List Char) : Proper (.string (Literal.escape cs))
  | array {items : List Json} (h : ∀ item ∈ items, Proper item) : Proper (.array items)
  | object {fields : List (List Char × Json)}
    (hkeys : ∀ field ∈ fields, ∃ cs, field.1 = Literal.escape cs)
    (hvalues : ∀ field ∈ fields, Proper field.2) : Proper (.object fields)

/-- A document is found at the front of a text that starts with it. The bound on the steps is the
one the reader starts with, less what has been read. -/
def ReadsBack (j : Json) : Prop :=
  ∀ steps rest, 2 * j.chars.length ≤ steps → Numeral.Ends rest →
    scanValue steps (j.chars ++ rest) = some (j, rest)

/-! ### First characters -/

lemma skipBlanks_cons {c : Char} (h : isBlank c = false) (rest : List Char) :
    skipBlanks (c :: rest) = c :: rest :=
  List.dropWhile_cons_of_neg (by simp [h])

lemma isBlank_of_isDigit {c : Char} (h : c.isDigit = true) : isBlank c = false := by
  rw [isBlank, decide_eq_false_iff_not]
  rintro (rfl | rfl | rfl | rfl) <;> exact absurd h (by decide)

/-- A number starts with a minus sign or a digit. -/
lemma render_eq_cons {token : Numeral} (h : token.Proper) :
    ∃ c cs, token.render = c :: cs ∧ (c = '-' ∨ c.isDigit = true) := by
  rw [Numeral.render]
  cases token.negative with
  | true => exact ⟨'-', _, rfl, .inl rfl⟩
  | false =>
    cases hwhole : token.whole with
    | nil => exact absurd hwhole h.whole_ne
    | cons c cs =>
      exact ⟨c, _, rfl, .inr (h.whole_digits c (hwhole ▸ List.mem_cons_self))⟩

/-- A document starts with a character that is neither blank nor a closing bracket. -/
lemma chars_eq_cons {j : Json} (h : j.Proper) :
    ∃ c cs, j.chars = c :: cs ∧ isBlank c = false ∧ c ≠ ']' := by
  cases h with
  | null => exact ⟨_, _, rfl, by decide, by decide⟩
  | bool value => cases value <;> exact ⟨_, _, rfl, by decide, by decide⟩
  | number h =>
    obtain ⟨c, cs, hrender, rfl | hdigit⟩ := render_eq_cons h
    · exact ⟨'-', cs, hrender, by decide, by decide⟩
    · refine ⟨c, cs, hrender, isBlank_of_isDigit hdigit, ?_⟩
      rintro rfl
      exact absurd hdigit (by decide)
  | string cs => exact ⟨_, _, rfl, by decide, by decide⟩
  | array h => exact ⟨_, _, rfl, by decide, by decide⟩
  | object hkeys hvalues => exact ⟨_, _, rfl, by decide, by decide⟩

lemma ends_of_mem {c : Char} (h : c ∈ [',', ']', '\x7d']) (rest : List Char) :
    Numeral.Ends (c :: rest) := by
  intro d hd
  obtain rfl : c = d := Option.some.inj hd
  revert h
  simp only [List.mem_cons, List.not_mem_nil, or_false]
  rintro (rfl | rfl | rfl) <;> decide

/-! ### Items and fields -/

lemma commaSeparated_cons_cons (item next : List Char) (rest : List (List Char)) :
    commaSeparated (item :: next :: rest) = item ++ ',' :: commaSeparated (next :: rest) := rfl

lemma commaSeparated_eq_cons {item : List Char} {c : Char} {cs : List Char} (h : item = c :: cs)
    (rest : List (List Char)) : ∃ tail, commaSeparated (item :: rest) = c :: tail := by
  subst h
  cases rest with
  | nil => exact ⟨cs, rfl⟩
  | cons next rest => exact ⟨_, rfl⟩

lemma itemChars_eq (items : List Json) : itemChars items = items.map chars := by
  induction items with
  | nil => rfl
  | cons item rest ih => rw [itemChars, ih, List.map_cons]

/-- The text of a field. -/
def fieldText (field : List Char × Json) : List Char := quote field.1 ++ ':' :: field.2.chars

lemma length_chars_le (field : List Char × Json) :
    field.2.chars.length ≤ (fieldText field).length := by
  simp only [fieldText, List.length_append, List.length_cons]
  omega

lemma fieldChars_eq (fields : List (List Char × Json)) :
    fieldChars fields = fields.map fieldText := by
  induction fields with
  | nil => rfl
  | cons field rest ih => rw [fieldChars, ih, List.map_cons]; rfl

lemma scanItems_append {item : Json} {items : List Json}
    (h : ∀ j ∈ item :: items, j.ReadsBack) (steps : Nat) (rest : List Char)
    (hsteps : 2 * (commaSeparated ((item :: items).map chars)).length + 1 ≤ steps) :
    scanItems steps (commaSeparated ((item :: items).map chars) ++ ']' :: rest)
      = some (item :: items, rest) := by
  obtain ⟨steps, rfl⟩ : ∃ n, steps = n + 1 := ⟨steps - 1, by omega⟩
  have hitem : item.ReadsBack := h item List.mem_cons_self
  induction items generalizing item steps with
  | nil =>
    rw [List.map_singleton, commaSeparated] at hsteps ⊢
    rw [scanItems, hitem steps _ (by omega) (ends_of_mem (by decide) rest)]
    rfl
  | cons next items ih =>
    have hnext : ∀ j ∈ next :: items, j.ReadsBack := fun j hj => h j (List.mem_cons_of_mem _ hj)
    rw [List.map_cons, List.map_cons, commaSeparated_cons_cons, List.length_append,
      List.length_cons] at hsteps
    rw [List.map_cons, List.map_cons, commaSeparated_cons_cons, List.append_assoc,
      List.cons_append, scanItems, hitem steps _ (by omega) (ends_of_mem (by decide) _)]
    obtain ⟨steps, rfl⟩ : ∃ n, steps = n + 1 := ⟨steps - 1, by omega⟩
    have htail := ih hnext steps (by rw [List.map_cons]; omega) (hnext next List.mem_cons_self)
    rw [List.map_cons] at htail
    simp only [Option.bind_eq_bind, Option.bind_some,
      skipBlanks_cons (by decide : isBlank ',' = false), htail]
    rfl

lemma fieldText_append {field : List Char × Json} {cs : List Char}
    (hkey : field.1 = Literal.escape cs) (rest : List Char) :
    fieldText field ++ rest
      = '"' :: (Literal.escape cs ++ '"' :: ':' :: (field.2.chars ++ rest)) := by
  simp [fieldText, quote, hkey]

lemma scan_key {field : List Char × Json} {cs : List Char} (hkey : field.1 = Literal.escape cs)
    (rest : List Char) :
    Literal.scan (Literal.escape cs ++ '"' :: rest) = some (field.1, rest) := by
  rw [Literal.scan_escape, hkey]

lemma scanFields_last {field : List Char × Json} {cs rest : List Char} {steps : Nat}
    (hkey : field.1 = Literal.escape cs)
    (hvalue : scanValue steps (field.2.chars ++ '\x7d' :: rest)
      = some (field.2, '\x7d' :: rest)) :
    scanFields (steps + 1) (fieldText field ++ '\x7d' :: rest) = some ([field], rest) := by
  rw [fieldText_append hkey, scanFields, skipBlanks_cons (by decide)]
  simp only [scan_key hkey, Option.bind_eq_bind, Option.bind_some,
    skipBlanks_cons (by decide : isBlank ':' = false), hvalue,
    skipBlanks_cons (by decide : isBlank '\x7d' = false)]
  rfl

lemma scanFields_comma {field : List Char × Json} {fields : List (List Char × Json)}
    {cs tail rest : List Char} {steps : Nat} (hkey : field.1 = Literal.escape cs)
    (hvalue : scanValue steps (field.2.chars ++ ',' :: tail) = some (field.2, ',' :: tail))
    (htail : scanFields steps tail = some (fields, rest)) :
    scanFields (steps + 1) (fieldText field ++ ',' :: tail) = some (field :: fields, rest) := by
  rw [fieldText_append hkey, scanFields, skipBlanks_cons (by decide)]
  simp only [scan_key hkey, Option.bind_eq_bind, Option.bind_some,
    skipBlanks_cons (by decide : isBlank ':' = false), hvalue,
    skipBlanks_cons (by decide : isBlank ',' = false), htail]
  rfl

lemma scanFields_append {field : List Char × Json} {fields : List (List Char × Json)}
    (hkeys : ∀ f ∈ field :: fields, ∃ cs, f.1 = Literal.escape cs)
    (h : ∀ f ∈ field :: fields, f.2.ReadsBack) (steps : Nat) (rest : List Char)
    (hsteps : 2 * (commaSeparated ((field :: fields).map fieldText)).length + 1 ≤ steps) :
    scanFields steps (commaSeparated ((field :: fields).map fieldText) ++ '\x7d' :: rest)
      = some (field :: fields, rest) := by
  obtain ⟨steps, rfl⟩ : ∃ n, steps = n + 1 := ⟨steps - 1, by omega⟩
  have hvalue : field.2.ReadsBack := h field List.mem_cons_self
  have hlength := length_chars_le field
  obtain ⟨cs, hkey⟩ := hkeys field List.mem_cons_self
  induction fields generalizing field steps cs with
  | nil =>
    rw [List.map_singleton, commaSeparated] at hsteps ⊢
    exact scanFields_last hkey (hvalue steps _ (by omega) (ends_of_mem (by decide) rest))
  | cons next fields ih =>
    have hnextkeys : ∀ f ∈ next :: fields, ∃ cs, f.1 = Literal.escape cs :=
      fun f hf => hkeys f (List.mem_cons_of_mem _ hf)
    have hnext : ∀ f ∈ next :: fields, f.2.ReadsBack := fun f hf => h f (List.mem_cons_of_mem _ hf)
    obtain ⟨ds, hnextkey⟩ := hnextkeys next List.mem_cons_self
    rw [List.map_cons, List.map_cons, commaSeparated_cons_cons, List.length_append,
      List.length_cons] at hsteps
    rw [List.map_cons, List.map_cons, commaSeparated_cons_cons, List.append_assoc,
      List.cons_append]
    refine scanFields_comma hkey (hvalue steps _ (by omega) (ends_of_mem (by decide) _)) ?_
    obtain ⟨steps, rfl⟩ : ∃ n, steps = n + 1 := ⟨steps - 1, by omega⟩
    exact ih hnextkeys hnext steps (by rw [List.map_cons]; omega)
      (hnext next List.mem_cons_self) (length_chars_le next) ds hnextkey

/-! ### Documents -/

lemma readsBack_number {token : Numeral} (h : token.Proper) : (number token).ReadsBack := by
  intro steps rest hsteps hrest
  obtain ⟨c, cs, hrender, hc⟩ := render_eq_cons h
  have hchars : (number token).chars = c :: cs := hrender
  obtain ⟨steps, rfl⟩ : ∃ n, steps = n + 1 := by
    rw [hchars, List.length_cons] at hsteps
    exact ⟨steps - 1, by omega⟩
  have hscan := Numeral.scan_render_append h hrest
  have hblank : isBlank c = false := by
    obtain rfl | hdigit := hc
    · decide
    · exact isBlank_of_isDigit hdigit
  rw [hrender] at hscan
  rw [hchars, List.cons_append] at *
  rw [scanValue, skipBlanks_cons hblank]
  -- no other document starts with a minus sign or a digit
  split
  case h_7 => rw [hscan]; rfl
  all_goals
    rename_i heq
    obtain ⟨rfl, -⟩ := List.cons.inj heq
    exact absurd hc (by decide)

lemma readsBack_string (cs : List Char) : (string (Literal.escape cs)).ReadsBack := by
  intro steps rest hsteps _
  have htext : (string (Literal.escape cs)).chars ++ rest
      = '"' :: (Literal.escape cs ++ '"' :: rest) := by
    simp [chars, quote]
  obtain ⟨steps, rfl⟩ : ∃ n, steps = n + 1 := by
    rw [chars, quote, List.length_append, List.length_cons] at hsteps
    exact ⟨steps - 1, by omega⟩
  rw [htext, scanValue, skipBlanks_cons (by decide)]
  simp only [Literal.scan_escape, Option.map_some]

lemma readsBack_array {items : List Json} (hproper : ∀ item ∈ items, item.Proper)
    (h : ∀ item ∈ items, item.ReadsBack) : (array items).ReadsBack := by
  intro steps rest hsteps hrest
  rw [chars, itemChars_eq] at hsteps ⊢
  simp only [List.cons_append, List.append_assoc, List.nil_append, List.length_cons,
    List.length_append, List.length_nil] at hsteps ⊢
  obtain ⟨steps, rfl⟩ : ∃ n, steps = n + 1 := ⟨steps - 1, by omega⟩
  rw [scanValue, skipBlanks_cons (by decide)]
  cases items with
  | nil => rfl
  | cons item items =>
    have hscan := scanItems_append h steps rest (by omega)
    obtain ⟨c, cs, hchars, hblank, hbracket⟩ := chars_eq_cons (hproper item List.mem_cons_self)
    obtain ⟨tail, htail⟩ := commaSeparated_eq_cons hchars (items.map chars)
    rw [List.map_cons, htail, List.cons_append] at hscan ⊢
    simp only [skipBlanks_cons hblank]
    split
    · rename_i heq
      exact absurd (List.cons.inj heq).1 hbracket
    · rw [hscan]
      rfl

lemma readsBack_object {fields : List (List Char × Json)}
    (hkeys : ∀ field ∈ fields, ∃ cs, field.1 = Literal.escape cs)
    (h : ∀ field ∈ fields, field.2.ReadsBack) : (object fields).ReadsBack := by
  intro steps rest hsteps hrest
  rw [chars, fieldChars_eq] at hsteps ⊢
  simp only [List.cons_append, List.append_assoc, List.nil_append, List.length_cons,
    List.length_append, List.length_nil] at hsteps ⊢
  obtain ⟨steps, rfl⟩ : ∃ n, steps = n + 1 := ⟨steps - 1, by omega⟩
  rw [scanValue, skipBlanks_cons (by decide)]
  cases fields with
  | nil => rfl
  | cons field fields =>
    have hscan := scanFields_append hkeys h steps rest (by omega)
    have hquote : fieldText field = '"' :: (field.1 ++ ['"'] ++ ':' :: field.2.chars) := rfl
    obtain ⟨tail, htail⟩ := commaSeparated_eq_cons hquote (fields.map fieldText)
    rw [List.map_cons, htail, List.cons_append] at hscan ⊢
    simp only [skipBlanks_cons (by decide : isBlank '"' = false)]
    split
    · rename_i heq
      exact absurd (List.cons.inj heq).1 (by decide)
    · rw [hscan]
      rfl

lemma Proper.readsBack {j : Json} (h : j.Proper) : j.ReadsBack := by
  induction h with
  | null =>
    intro steps rest hsteps _
    obtain ⟨steps, rfl⟩ : ∃ n, steps = n + 1 := ⟨steps - 1, by simp [chars] at hsteps; omega⟩
    rfl
  | bool value =>
    intro steps rest hsteps _
    cases value <;>
    · obtain ⟨steps, rfl⟩ : ∃ n, steps = n + 1 := ⟨steps - 1, by simp [chars] at hsteps; omega⟩
      rfl
  | number h => exact readsBack_number h
  | string cs => exact readsBack_string cs
  | array hproper ih => exact readsBack_array hproper ih
  | object hkeys hvalues ih => exact readsBack_object hkeys ih

/-- A proper document is read from the text it is written as. -/
lemma parse?_render {j : Json} (h : j.Proper) : parse? j.render = some j := by
  have hread := h.readsBack (2 * j.chars.length + 2) [] (by omega) nofun
  rw [List.append_nil] at hread
  rw [parse?, render, String.toList_ofList, parseChars?, hread]
  rfl

lemma eq_of_render_eq {j k : Json} (hj : j.Proper) (hk : k.Proper) (h : j.render = k.render) :
    j = k := by
  have hread := congrArg parse? h
  rw [parse?_render hj, parse?_render hk] at hread
  exact Option.some.inj hread

/-! ### Texts and records -/

lemma text_injective : Function.Injective text := by
  intro s t h
  exact String.toList_injective (Literal.escape_injective (Json.string.inj h))

lemma record_injective : Function.Injective record := by
  intro fs gs h
  refine List.map_injective_iff.mpr ?_ (Json.object.inj h)
  rintro ⟨name, value⟩ ⟨name', value'⟩ hfield
  obtain ⟨hname, hvalue⟩ := Prod.mk.inj hfield
  rw [String.toList_injective (Literal.escape_injective hname), hvalue]

lemma proper_text (s : String) : (text s).Proper := .string s.toList

lemma proper_record {fields : List (String × Json)} (h : ∀ field ∈ fields, field.2.Proper) :
    (record fields).Proper := by
  refine .object (fun field hfield => ?_) fun field hfield => ?_
  · obtain ⟨f, -, rfl⟩ := List.mem_map.mp hfield
    exact ⟨f.1.toList, rfl⟩
  · obtain ⟨f, hf, rfl⟩ := List.mem_map.mp hfield
    exact h f hf

end DistanceField.Json
