import Mathlib
import DistanceField.Proofs.Flat.Canonical
import DistanceField.Proofs.Text.ByteOrder

/-!
# The canonical text does not show in which order entries came

Records and settings stand under keys that occur once, in no order that means anything. Sorting them
leaves one order only, that of the keys, so flat scenes with the same entries are written alike.
What is written can be read off the text: every key once, in the order of its bytes and with what
stands under it, and lists of identifiers as they are.
-/

namespace DistanceField

variable {α β γ : Type}

/-! ### Sorting by keys -/

lemma sortByKey_perm (entries : List (String × β)) : (sortByKey entries).Perm entries :=
  List.mergeSort_perm entries _

lemma pairwise_sortByKey (entries : List (String × β)) :
    (sortByKey entries).Pairwise fun a b => a.1 ≤ b.1 := by
  have h : (sortByKey entries).Pairwise fun a b => decide (a.1 ≤ b.1) = true := by
    apply List.pairwise_mergeSort
    · intro a b c hab hbc
      exact decide_eq_true (le_trans (of_decide_eq_true hab) (of_decide_eq_true hbc))
    · intro a b
      simpa using le_total a.1 b.1
  exact h.imp of_decide_eq_true

/-- Where keys occur once, the sorted entries do not depend on the order before. -/
lemma sortByKey_eq_of_perm {xs ys : List (String × β)} (hkeys : (xs.map Prod.fst).Nodup)
    (h : xs.Perm ys) : sortByKey xs = sortByKey ys := by
  have hsorted := (sortByKey_perm xs).trans (h.trans (sortByKey_perm ys).symm)
  refine hsorted.eq_of_pairwise ?_ (pairwise_sortByKey xs) (pairwise_sortByKey ys)
  intro a b ha hb hab hba
  have hb' : b ∈ xs := h.mem_iff.mpr (mem_sortByKey.mp hb)
  exact List.inj_on_of_nodup_map hkeys (mem_sortByKey.mp ha) hb' (le_antisymm hab hba)

lemma sortByKey_map (f : β → γ) (entries : List (String × β)) :
    sortByKey (entries.map fun e => (e.1, f e.2)) = (sortByKey entries).map fun e => (e.1, f e.2) :=
  (List.map_mergeSort (f := fun e : String × β => (e.1, f e.2)) fun _ _ _ _ => rfl).symm

/-- Texts in the order of their bytes, none of them twice. -/
def Text.ByteSorted (names : List String) : Prop :=
  names.Pairwise fun a b => Text.bytes a < Text.bytes b

instance (names : List String) : Decidable (Text.ByteSorted names) :=
  inferInstanceAs (Decidable (names.Pairwise fun a b => Text.bytes a < Text.bytes b))

lemma byteSorted_sortByKey {entries : List (String × β)} (hkeys : (entries.map Prod.fst).Nodup) :
    Text.ByteSorted ((sortByKey entries).map Prod.fst) := by
  have hnodup : ((sortByKey entries).map Prod.fst).Nodup :=
    ((sortByKey_perm entries).map Prod.fst).nodup_iff.mpr hkeys
  have hle : ((sortByKey entries).map Prod.fst).Pairwise (· ≤ ·) :=
    List.pairwise_map.mpr (pairwise_sortByKey entries)
  exact (hle.and hnodup).imp fun hab => Text.bytes_lt_bytes (lt_of_le_of_ne hab.1 hab.2)

/-! ### The same entries in another order -/

/-- Two records that differ at most in the order of their settings. The identifier that a record
repeats is not written and does not count. -/
structure Record.SameEntries (r s : Record α) : Prop where
  kind_eq : r.kind = s.kind
  settings_perm : r.settings.Perm s.settings
  domainStack_eq : r.domainStack = s.domainStack
  children_eq : r.children = s.children

namespace Flat

/-- Two flat scenes that differ at most in the order of their records, and these in the order of
their settings. -/
structure SameEntries (s t : Flat α) : Prop where
  root_eq : s.root = t.root
  order_eq : s.order = t.order
  records_perm : ∃ entries, s.records.Perm entries ∧
    List.Forall₂ (fun a b => a.1 = b.1 ∧ a.2.SameEntries b.2) entries t.records

/-- No identifier has two records, and no setting of a record two values. -/
structure KeysOnce (s : Flat α) : Prop where
  records : (s.records.map Prod.fst).Nodup
  settings : ∀ entry ∈ s.records, (entry.2.settings.map Prod.fst).Nodup

end Flat

/-! ### Keys of a scene -/

lemma Setting.map_fst_named_sublist (name : String) (f : β → Setting α) (o : Option β) :
    ((Setting.named name f o).map Prod.fst).Sublist [name] := by
  cases o with
  | none => exact List.nil_sublist _
  | some value => exact List.Sublist.refl _

lemma Primitive.nodup_map_fst_settings (b : Primitive α) : (b.settings.map Prod.fst).Nodup := by
  have hshape : (b.shape.settings.map Prod.fst).Sublist ["radius", "size", "length"] := by
    cases b.shape with
    | circle radius => exact (Setting.map_fst_named_sublist _ _ _).trans (by decide)
    | box size => exact (Setting.map_fst_named_sublist _ _ _).trans (by decide)
    | capsule radius length =>
      rw [Shape.settings, List.map_append]
      exact ((Setting.map_fst_named_sublist _ _ _).append
        (Setting.map_fst_named_sublist _ _ _)).trans (by decide)
  rw [Primitive.settings, List.map_append]
  exact ((List.Sublist.refl ["position", "rotation", "scale"]).append hshape).nodup (by decide)

lemma Operator.nodup_map_fst_settings (op : Operator α) : (op.settings.map Prod.fst).Nodup := by
  have hparams : (op.params.settings.map Prod.fst).Sublist
      (["opRadius"] ++ ["thickness"] ++ ["period"] ++ ["axis"] ++ ["offset"] ++ ["strength"] ++
        ["frequency"] ++ ["amplitude"] ++ ["minLimit"] ++ ["maxLimit"]) := by
    simp only [Params.settings, List.map_append]
    repeat' apply List.Sublist.append
    all_goals exact Setting.map_fst_named_sublist _ _ _
  exact (hparams.cons_cons "blend").nodup (by decide)

/-- In the flat form of a scene all keys occur once. -/
lemma Flat.keysOnce_ofScene (scene : Option (Node α)) : (ofScene scene).KeysOnce := by
  cases scene with
  | none => exact ⟨List.nodup_nil, fun _ hentry => absurd hentry List.not_mem_nil⟩
  | some tree =>
    refine ⟨nodup_keys_ofScene tree, fun entry hentry => ?_⟩
    obtain ⟨o, -, -, hrecord⟩ := path_of_find?_ofScene (find?_of_mem_records hentry)
    rw [← hrecord, Occurrence.record]
    cases o.node with
    | primitive info body => exact body.nodup_map_fst_settings
    | operation info op children => exact op.nodup_map_fst_settings

section Documents

variable [JsonScalar α]

lemma Record.toJson_eq_of_sameEntries {r s : Record α} (hkeys : (r.settings.map Prod.fst).Nodup)
    (h : r.SameEntries s) : r.toJson = s.toJson := by
  rw [Record.toJson, Record.toJson, sortByKey_eq_of_perm hkeys h.settings_perm, h.kind_eq,
    h.domainStack_eq, h.children_eq]

/-- Records that differ at most in the order of their settings have the same documents. -/
lemma Record.map_toJson_eq {entries entries' : List (String × Record α)}
    (hkeys : ∀ entry ∈ entries, (entry.2.settings.map Prod.fst).Nodup)
    (h : List.Forall₂ (fun a b => a.1 = b.1 ∧ a.2.SameEntries b.2) entries entries') :
    entries.map (fun e => (e.1, e.2.toJson)) = entries'.map fun e => (e.1, e.2.toJson) := by
  induction h with
  | nil => rfl
  | @cons a b entries entries' hab _ ih =>
    obtain ⟨ha, hentries⟩ := List.forall_mem_cons.mp hkeys
    rw [List.map_cons, List.map_cons, hab.1, Record.toJson_eq_of_sameEntries ha hab.2, ih hentries]

lemma Flat.toJson_eq (s : Flat α) :
    s.toJson = .record [("rootId", .text s.root), ("evaluationOrder", .ids s.order),
      ("nodes", .record (sortByKey (s.records.map fun e => (e.1, e.2.toJson))))] := by
  rw [sortByKey_map]
  rfl

lemma Flat.canonical_eq_of_sameEntries {s t : Flat α} (hkeys : s.KeysOnce)
    (h : s.SameEntries t) : s.canonical = t.canonical := by
  obtain ⟨entries, hperm, hsame⟩ := h.records_perm
  have hentries : ∀ entry ∈ entries, (entry.2.settings.map Prod.fst).Nodup :=
    fun entry hentry => hkeys.settings entry (hperm.mem_iff.mpr hentry)
  have hdocuments := hperm.map fun e => (e.1, e.2.toJson)
  rw [Record.map_toJson_eq hentries hsame] at hdocuments
  have hids : ((s.records.map fun e => (e.1, e.2.toJson)).map Prod.fst).Nodup := by
    rw [List.map_map]
    exact hkeys.records
  rw [canonical, canonical, toJson_eq, toJson_eq, h.root_eq, h.order_eq,
    sortByKey_eq_of_perm hids hdocuments]

/-! ### What is written -/

/-- The document of a record: its settings by name, in the order of bytes, and its lists as arrays
of their entries. -/
def Record.WrittenAs (r : Record α) (document : Json) : Prop :=
  ∃ settings : List (String × Setting α), settings.Perm r.settings ∧
    Text.ByteSorted (settings.map Prod.fst) ∧
    document = .record [("type", .text r.kind.name),
      ("params", .record (settings.map fun s => (s.1, s.2.toJson))),
      ("domainStack", .array (r.domainStack.map .text)),
      ("children", .array (r.children.map .text))]

/-- The document of a flat scene: its records by identifier, in the order of bytes, and the
evaluation order as an array of its entries. -/
def Flat.WrittenAs (s : Flat α) (document : Json) : Prop :=
  ∃ (records : List (String × Record α)) (nodes : List (String × Json)),
    records.Perm s.records ∧ Text.ByteSorted (records.map Prod.fst) ∧
    List.Forall₂ (fun r node => node.1 = r.1 ∧ r.2.WrittenAs node.2) records nodes ∧
    document = .record [("rootId", .text s.root),
      ("evaluationOrder", .array (s.order.map .text)), ("nodes", .record nodes)]

lemma Record.writtenAs_toJson {r : Record α} (hkeys : (r.settings.map Prod.fst).Nodup) :
    r.WrittenAs r.toJson :=
  ⟨sortByKey r.settings, sortByKey_perm r.settings, byteSorted_sortByKey hkeys, rfl⟩

lemma Flat.writtenAs_toJson {s : Flat α} (hkeys : s.KeysOnce) : s.WrittenAs s.toJson := by
  refine ⟨sortByKey s.records, (sortByKey s.records).map fun e => (e.1, e.2.toJson),
    sortByKey_perm s.records, byteSorted_sortByKey hkeys.records, ?_, rfl⟩
  rw [List.forall₂_map_right_iff, List.forall₂_same]
  intro entry hentry
  exact ⟨rfl, Record.writtenAs_toJson (hkeys.settings entry (mem_sortByKey.mp hentry))⟩

end Documents

/-- Flat scenes with the same entries have the same canonical text, in whatever order the entries
came. A reader of that text finds every key once, in the order of bytes and with its own record, and
finds lists of identifiers in their order. -/
theorem Flat.canonical_order_independent {s t : Flat Float32} (hkeys : s.KeysOnce)
    (h : s.SameEntries t) :
    s.canonical = t.canonical ∧
    ∃ document, s.WrittenAs document ∧ s.canonical = document.render ∧
      Json.parse? s.canonical = some document :=
  ⟨canonical_eq_of_sameEntries hkeys h, s.toJson, writtenAs_toJson hkeys, rfl,
    Json.parse?_render s.proper_toJson⟩

/-- The flat scene with records and settings in the opposite order. -/
def Flat.reversed (s : Flat α) : Flat α :=
  { s with records := s.records.reverse.map fun e =>
      (e.1, { e.2 with settings := e.2.settings.reverse }) }

lemma Flat.sameEntries_reversed (s : Flat α) : s.SameEntries s.reversed := by
  refine ⟨rfl, rfl, s.records.reverse, (List.reverse_perm s.records).symm, ?_⟩
  rw [reversed, List.forall₂_map_right_iff, List.forall₂_same]
  intro entry _
  exact ⟨rfl, rfl, (List.reverse_perm entry.2.settings).symm, rfl, rfl⟩

/-- Discs whose identifiers are one, two, three and four bytes long. -/
def accentedDiscs : Node Float32 :=
  .combine "z" .union
    [.circle "𝄞" .zero 1.0, .circle "é" .zero 1.0, .circle "\uffff" .zero 1.0]

/-- Flattening lists the discs first, in the order of the tree. Neither that order nor its opposite
shows in the text. -/
theorem Flat.canonical_accentedDiscs :
    let flat := ofScene (some accentedDiscs)
    flat.KeysOnce ∧ flat.SameEntries flat.reversed ∧
    ¬ Text.ByteSorted (flat.records.map Prod.fst) ∧
    ¬ Text.ByteSorted (flat.reversed.records.map Prod.fst) ∧
    flat.canonical = flat.reversed.canonical ∧
    ∃ document, flat.WrittenAs document ∧ flat.canonical = document.render ∧
      Json.parse? flat.canonical = some document := by
  intro flat
  have hkeys : flat.KeysOnce := keysOnce_ofScene _
  have hsame := flat.sameEntries_reversed
  obtain ⟨hcanonical, hdocument⟩ := canonical_order_independent hkeys hsame
  exact ⟨hkeys, hsame, by decide, by decide, hcanonical, hdocument⟩

end DistanceField
