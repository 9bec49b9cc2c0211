import Mathlib
import DistanceField.Json.Scalar
import DistanceField.Proofs.Json.Literal

/-!
# Reading what was written

A record is written as an object whose keys are the names of its fields. As long as the names are
distinct, asking for them in order gives the values in order, and taking a tag off a record leaves
the record of the other fields.
-/

namespace DistanceField.Json

/-! ### Texts -/

lemma literalText?_escape (s : String) : literalText? (Literal.escape s.toList) = some s := by
  rw [literalText?, Literal.unescape?_escape, Option.map_some, String.ofList_toList]

@[simp] lemma text?_text (s : String) : (text s).text? = some s := literalText?_escape s

lemma text_ne_null (s : String) : text s ≠ null := by
  intro h
  cases h

@[simp] lemma name?_text (s : String) : (text s).name? = some s := by
  rw [name?, text?_text]

/-! ### Lists -/

/-- A list of which each item is read or refused is read if no item is refused. -/
lemma mapM_eq_ite {β γ : Type} {f : β → Option γ} {p : β → Bool} {g : β → γ} {bs : List β}
    (h : ∀ b ∈ bs, f b = if p b then some (g b) else none) :
    bs.mapM f = if bs.all p then some (bs.map g) else none := by
  induction bs with
  | nil => rfl
  | cons b rest ih =>
    have hrest := ih fun c hc => h c (List.mem_cons_of_mem b hc)
    rw [List.mapM_cons, h b List.mem_cons_self, hrest, List.all_cons]
    cases p b <;> cases rest.all p <;> rfl

lemma mapM_eq_some {β γ : Type} {f : β → Option γ} {g : β → γ} {bs : List β}
    (h : ∀ b ∈ bs, f b = some (g b)) : bs.mapM f = some (bs.map g) := by
  rw [mapM_eq_ite (p := fun _ => true) h, if_pos (List.all_eq_true.mpr fun _ _ => rfl)]

/-! ### Records -/

/-- The fields of a record with their keys as they are written. -/
lemma members?_record (fields : List (String × Json)) :
    members? (fields.map fun (name, value) => (Literal.escape name.toList, value))
      = some fields := by
  rw [members?, List.mapM_map, mapM_eq_some (g := id), List.map_id]
  rintro ⟨name, value⟩ -
  simp only [Function.comp_apply, literalText?_escape, Option.map_some, id_eq]

/-- A name that does not come again has the value that it stands with first. -/
lemma field?_cons_self {name : String} (value : Json) {rest : List (String × Json)}
    (h : name ∉ rest.map Prod.fst) : field? ((name, value) :: rest) name = some (some value) := by
  have hnone : rest.filter (·.1 == name) = [] := by
    rw [List.filter_eq_nil_iff]
    intro field hfield hname
    exact h (List.mem_map.mpr ⟨field, hfield, beq_iff_eq.mp hname⟩)
  rw [field?, List.filter_cons, if_pos (beq_self_eq_true name), hnone]

lemma field?_cons_of_ne {name : String} {field : String × Json} (rest : List (String × Json))
    (h : field.1 ≠ name) : field? (field :: rest) name = field? rest name := by
  rw [field?, List.filter_cons, if_neg (by simpa using h), field?]

/-- Where names are distinct, a name has the value that stands with it. -/
lemma field?_of_mem {fields : List (String × Json)} {name : String} {value : Json}
    (h : (fields.map Prod.fst).Nodup) (hmem : (name, value) ∈ fields) :
    field? fields name = some (some value) := by
  induction fields with
  | nil => cases hmem
  | cons field rest ih =>
    obtain ⟨hnew, hrest⟩ := List.nodup_cons.mp h
    obtain rfl | hmem := List.mem_cons.mp hmem
    · exact field?_cons_self value hnew
    · rw [field?_cons_of_ne rest fun hname => hnew (List.mem_map.mpr ⟨_, hmem, hname.symm⟩)]
      exact ih hrest hmem

/-- The values of a record, asked for by the names that it was written with. -/
lemma record?_record {names : List String} {fields : List (String × Json)}
    (hnames : fields.map Prod.fst = names) (h : names.Nodup) :
    (record fields).record? names = some (fields.map fun field => some field.2) := by
  subst hnames
  have hread : (fields.map Prod.fst).mapM (field? fields)
      = some (fields.map fun field => some field.2) := by
    rw [List.mapM_map]
    exact mapM_eq_some fun field hfield => field?_of_mem h hfield
  rw [record, record?, members?_record]
  exact hread

/-- The tag of a record, and the record without it. -/
lemma tagged?_record {tag : String} (value : String) {fields : List (String × Json)}
    (h : tag ∉ fields.map Prod.fst) :
    (record ((tag, text value) :: fields)).tagged? tag = some (value, record fields) := by
  have hrest : (((tag, text value) :: fields).map fun (name, value) =>
      (Literal.escape name.toList, value)).filter (fun entry => literalText? entry.1 != some tag)
      = fields.map fun (name, value) => (Literal.escape name.toList, value) := by
    rw [List.map_cons, List.filter_cons_of_neg (by simp [literalText?_escape]),
      List.filter_eq_self]
    intro entry hentry
    obtain ⟨field, hfield, rfl⟩ := List.mem_map.mp hentry
    have hname : field.1 ≠ tag := fun hname => h (List.mem_map.mpr ⟨field, hfield, hname⟩)
    simpa [literalText?_escape] using hname
  rw [record, tagged?, members?_record]
  simp only [Option.bind_eq_bind, Option.bind_some, field?_cons_self _ h, text?_text]
  exact congrArg (fun rest => some (value, object rest)) hrest

@[simp] lemma single?_record (name : String) (value : Json) :
    (record [(name, value)]).single? = some (name, value) := by
  change (literalText? (Literal.escape name.toList)).map (·, value) = some (name, value)
  rw [literalText?_escape, Option.map_some]

/-! ### Documents without unread tokens -/

section Readable

variable {α : Type} [JsonScalar α]

@[simp] lemma isReadable_text (s : String) : (text s).isReadable α = true := by
  rw [text, isReadable, literalText?_escape, Option.isSome_some]

lemma isReadable_optional {β : Type} {f : β → Json} {o : Option β}
    (h : ∀ b ∈ o, (f b).isReadable α = true) : (optional f o).isReadable α = true := by
  cases o with
  | none => rfl
  | some b => exact h b rfl

lemma isReadable_record (fields : List (String × Json)) :
    (record fields).isReadable α = fields.all fun field => field.2.isReadable α := by
  rw [record, isReadable]
  induction fields with
  | nil => rw [List.map_nil, fieldsReadable, List.all_nil]
  | cons field rest ih =>
    rw [List.map_cons, fieldsReadable, literalText?_escape, ih, List.all_cons,
      Option.isSome_some, Bool.true_and]

end Readable

/-! ### Depth -/

lemma depth_lt_record (name : String) {value : Json} {fields : List (String × Json)}
    (h : (name, value) ∈ fields) : value.depth < (record fields).depth := by
  rw [record, depth, Nat.lt_succ_iff]
  induction fields with
  | nil => cases h
  | cons first rest ih =>
    rw [List.map_cons, depthFields]
    obtain rfl | h := List.mem_cons.mp h
    · exact Nat.le_max_left _ _
    · exact (ih h).trans (Nat.le_max_right _ _)

lemma depth_lt_array {items : List Json} {item : Json} (h : item ∈ items) :
    item.depth < (array items).depth := by
  rw [depth, Nat.lt_succ_iff]
  induction items with
  | nil => cases h
  | cons first rest ih =>
    rw [depthItems]
    obtain rfl | h := List.mem_cons.mp h
    · exact Nat.le_max_left _ _
    · exact (ih h).trans (Nat.le_max_right _ _)

end DistanceField.Json
