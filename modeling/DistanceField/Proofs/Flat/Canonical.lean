import Mathlib
import DistanceField.Flat.Canonical
import DistanceField.Node.Build
import DistanceField.Proofs.Json.Scalar
import DistanceField.Proofs.Node.Essence

/-!
# The canonical text keeps what matters

The canonical text of a scene is the text of a proper document, so it can be read back. From the
document of a scene with distinct identifiers and finite numbers the tree is rebuilt, up to names
and what an editor shows: the records say for every node its kind, its settings and its children.
-/

namespace DistanceField

/-! ### Documents of flat scenes -/

namespace Json

lemma ids_injective : Function.Injective Json.ids := by
  intro as bs h
  exact List.map_injective_iff.mpr text_injective (Json.array.inj h)

lemma proper_ids (names : List String) : (Json.ids names).Proper := by
  refine .array fun item hitem => ?_
  obtain ⟨name, -, rfl⟩ := List.mem_map.mp hitem
  exact proper_text name

end Json

lemma Setting.proper_toJson (s : Setting Float32) : s.toJson.Proper := by
  cases s with
  | scalar value => exact Json.proper_toJson value
  | vector value =>
    refine .array fun item hitem => ?_
    simp only [List.mem_cons, List.not_mem_nil, or_false] at hitem
    obtain rfl | rfl := hitem
    · exact Json.proper_toJson value.x
    · exact Json.proper_toJson value.y
  | axis value => exact Json.proper_text value.name

lemma Record.proper_toJson (r : Record Float32) : r.toJson.Proper := by
  refine Json.proper_record fun field hfield => ?_
  simp only [List.mem_cons, List.not_mem_nil, or_false] at hfield
  obtain rfl | rfl | rfl | rfl := hfield
  · exact Json.proper_text r.kind.name
  · refine Json.proper_record fun setting hsetting => ?_
    obtain ⟨s, -, rfl⟩ := List.mem_map.mp hsetting
    exact s.2.proper_toJson
  · exact Json.proper_ids r.domainStack
  · exact Json.proper_ids r.children

lemma Flat.proper_toJson (s : Flat Float32) : s.toJson.Proper := by
  refine Json.proper_record fun field hfield => ?_
  simp only [List.mem_cons, List.not_mem_nil, or_false] at hfield
  obtain rfl | rfl | rfl := hfield
  · exact Json.proper_text s.root
  · exact Json.proper_ids s.order
  · refine Json.proper_record fun entry hentry => ?_
    obtain ⟨r, -, rfl⟩ := List.mem_map.mp hentry
    exact r.2.proper_toJson

/-! ### Finite settings -/

/-- The numbers of a parameter. -/
def Setting.numbers {α : Type} : Setting α → List α
  | .scalar value => [value]
  | .vector value => [value.x, value.y]
  | .axis _ => []

/-- A parameter without NaN and infinities. -/
def Setting.Finite (s : Setting Float32) : Prop := ∀ x ∈ s.numbers, x.isFinite = true

/-- A tree without NaN and infinities. -/
def Node.Finite (tree : Node Float32) : Prop :=
  ∀ n ∈ tree.preorder, ∀ s ∈ n.settings, s.2.Finite

instance (tree : Node Float32) : Decidable tree.Finite :=
  inferInstanceAs (Decidable (∀ n ∈ tree.preorder, ∀ s ∈ n.settings, ∀ x ∈ s.2.numbers,
    x.isFinite = true))

lemma Axis.ofName?_name (a : Axis) : Axis.ofName? a.name = some a := by
  cases a <;> rfl

lemma Axis.name_injective : Function.Injective Axis.name := by
  intro a b h
  have hread := congrArg Axis.ofName? h
  rw [ofName?_name, ofName?_name] at hread
  exact Option.some.inj hread

lemma Kind.ofName?_name (k : Kind) : Kind.ofName? k.name = some k := by
  cases k with
  | shape k => cases k <;> rfl
  | op k => cases k <;> rfl

lemma Kind.name_injective : Function.Injective Kind.name := by
  intro k l h
  have hread := congrArg Kind.ofName? h
  rw [ofName?_name, ofName?_name] at hread
  exact Option.some.inj hread

/-- The document of a finite parameter tells the parameter: numbers, arrays and strings keep the
three sorts apart. -/
lemma Setting.eq_of_toJson_eq {s t : Setting Float32} (hs : s.Finite) (ht : t.Finite)
    (h : s.toJson = t.toJson) : s = t := by
  cases s with
  | scalar x =>
    have hx : x.isFinite = true := hs x List.mem_cons_self
    obtain ⟨token, -, hnumber⟩ := Json.exists_toJson_eq hx
    cases t with
    | scalar y => exact congrArg _ (Json.eq_of_toJson_eq hx (ht y List.mem_cons_self) h)
    | vector w => cases hnumber.symm.trans h
    | axis b => cases hnumber.symm.trans h
  | vector v =>
    cases t with
    | scalar y =>
      obtain ⟨token, -, hnumber⟩ := Json.exists_toJson_eq (ht y List.mem_cons_self)
      cases h.trans hnumber
    | vector w =>
      obtain ⟨hx, hy⟩ := List.cons.inj (Json.array.inj h)
      obtain ⟨hy, -⟩ := List.cons.inj hy
      have hxx : v.x = w.x :=
        Json.eq_of_toJson_eq (hs v.x (by simp [numbers])) (ht w.x (by simp [numbers])) hx
      have hyy : v.y = w.y :=
        Json.eq_of_toJson_eq (hs v.y (by simp [numbers])) (ht w.y (by simp [numbers])) hy
      cases v
      cases w
      cases hxx
      cases hyy
      rfl
    | axis b => cases h
  | axis a =>
    cases t with
    | scalar y =>
      obtain ⟨token, -, hnumber⟩ := Json.exists_toJson_eq (ht y List.mem_cons_self)
      cases h.trans hnumber
    | vector w => cases h
    | axis b => exact congrArg _ (Axis.name_injective (Json.text_injective h))

/-! ### What documents of records tell -/

lemma mem_sortByKey {β : Type} {entries : List (String × β)} {e : String × β} :
    e ∈ sortByKey entries ↔ e ∈ entries :=
  (List.mergeSort_perm entries _).mem_iff

/-- Entries that are written alike once sorted have the same keys with the same documents. -/
lemma exists_mem_of_sortByKey_eq {β : Type} {f : β → Json} {xs ys : List (String × β)}
    (h : (sortByKey xs).map (fun (key, b) => (key, f b))
      = (sortByKey ys).map fun (key, b) => (key, f b))
    {key : String} {b : β} (hb : (key, b) ∈ xs) : ∃ c, (key, c) ∈ ys ∧ f c = f b := by
  have hmem : (key, f b) ∈ (sortByKey xs).map fun (key, b) => (key, f b) :=
    List.mem_map.mpr ⟨(key, b), mem_sortByKey.mpr hb, rfl⟩
  rw [h] at hmem
  obtain ⟨⟨key', c⟩, hc, heq⟩ := List.mem_map.mp hmem
  obtain ⟨rfl, hfc⟩ := Prod.mk.inj heq
  exact ⟨c, mem_sortByKey.mp hc, hfc⟩

/-- The document of a record tells its kind, its settings if they are finite, and its children. -/
lemma Record.eq_of_toJson_eq {r s : Record Float32} (hr : ∀ e ∈ r.settings, e.2.Finite)
    (hs : ∀ e ∈ s.settings, e.2.Finite) (h : r.toJson = s.toJson) :
    r.kind = s.kind ∧ r.settings ⊆ s.settings ∧ r.children = s.children := by
  have hfields := Json.record_injective h
  simp only [List.cons.injEq, Prod.mk.injEq, true_and, and_true] at hfields
  obtain ⟨hkind, hsettings, -, hchildren⟩ := hfields
  refine ⟨Kind.name_injective (Json.text_injective hkind), ?_, Json.ids_injective hchildren⟩
  rintro ⟨name, value⟩ hvalue
  obtain ⟨value', hvalue', heq⟩ :=
    exists_mem_of_sortByKey_eq (Json.record_injective hsettings) hvalue
  obtain rfl : value' = value := Setting.eq_of_toJson_eq (hs _ hvalue') (hr _ hvalue) heq
  exact hvalue'

/-! ### What settings tell -/

section Settings

variable {α : Type}

lemma Setting.mem_named {β : Type} {name key : String} {f : β → Setting α} {o : Option β}
    {s : Setting α} :
    (key, s) ∈ Setting.named name f o ↔ key = name ∧ ∃ value, o = some value ∧ s = f value := by
  cases o with
  | none => simp [Setting.named]
  | some value => simp [Setting.named]

/-- The sizes of a shape are told by its kind and its settings. -/
lemma Shape.eq_of_settings {s t : Shape α} (hkind : s.kind = t.kind)
    (h : ∀ key ∈ ["radius", "size", "length"], ∀ v, (key, v) ∈ s.settings ↔ (key, v) ∈ t.settings) :
    s = t := by
  have hradius := fun v => h "radius" (by decide) (.scalar v)
  have hsize := fun v => h "size" (by decide) (.vector v)
  have hlength := fun v => h "length" (by decide) (.scalar v)
  cases s with
  | circle radius =>
    cases t with
    | circle radius' =>
      refine congrArg _ (Option.ext fun v => ?_)
      simpa [Shape.settings, Setting.mem_named] using hradius v
    | box size' => cases hkind
    | capsule radius' length' => cases hkind
  | box size =>
    cases t with
    | circle radius' => cases hkind
    | box size' =>
      refine congrArg _ (Option.ext fun v => ?_)
      simpa [Shape.settings, Setting.mem_named] using hsize v
    | capsule radius' length' => cases hkind
  | capsule radius length =>
    cases t with
    | circle radius' => cases hkind
    | box size' => cases hkind
    | capsule radius' length' =>
      refine congrArg₂ _ (Option.ext fun v => ?_) (Option.ext fun v => ?_)
      · simpa [Shape.settings, Setting.mem_named] using hradius v
      · simpa [Shape.settings, Setting.mem_named] using hlength v

lemma Shape.notMem_settings (shape : Shape α) (s : Setting α) :
    ("position", s) ∉ shape.settings ∧ ("rotation", s) ∉ shape.settings ∧
      ("scale", s) ∉ shape.settings := by
  cases shape <;> simp [Shape.settings, Setting.mem_named]

/-- A placed shape is told by its kind and its settings. -/
lemma Primitive.eq_of_settings {b c : Primitive α} (hkind : b.shape.kind = c.shape.kind)
    (h : ∀ e, e ∈ b.settings ↔ e ∈ c.settings) : b = c := by
  have hshape : b.shape = c.shape := by
    refine Shape.eq_of_settings hkind fun key hkey s => ?_
    simp only [List.mem_cons, List.not_mem_nil, or_false] at hkey
    have hentry := h (key, s)
    obtain rfl | rfl | rfl := hkey <;> simpa [Primitive.settings] using hentry
  have hposition : b.position = c.position := by
    have hmem := (h ("position", .vector b.position)).mp (by simp [Primitive.settings])
    simpa [Primitive.settings, c.shape.notMem_settings] using hmem
  have hrotation : b.rotation = c.rotation := by
    have hmem := (h ("rotation", .scalar b.rotation)).mp (by simp [Primitive.settings])
    simpa [Primitive.settings, c.shape.notMem_settings] using hmem
  have hscale : b.scale = c.scale := by
    have hmem := (h ("scale", .vector b.scale)).mp (by simp [Primitive.settings])
    simpa [Primitive.settings, c.shape.notMem_settings] using hmem
  cases b
  cases c
  simp_all only

/-- Parameters are told by those that are set. -/
lemma Params.eq_of_settings {p q : Params α} (h : ∀ e, e ∈ p.settings ↔ e ∈ q.settings) :
    p = q := by
  have hscalar := fun name v => h (name, .scalar v)
  have hvector := fun name v => h (name, .vector v)
  have haxis := fun name v => h (name, .axis v)
  simp only [Params.settings, List.mem_append, Setting.mem_named] at hscalar hvector haxis
  cases p
  cases q
  simp only [Params.mk.injEq]
  refine ⟨Option.ext fun v => ?_, Option.ext fun v => ?_, Option.ext fun v => ?_,
    Option.ext fun v => ?_, Option.ext fun v => ?_, Option.ext fun v => ?_,
    Option.ext fun v => ?_, Option.ext fun v => ?_, Option.ext fun v => ?_,
    Option.ext fun v => ?_⟩
  · simpa using hscalar "opRadius" v
  · simpa using hscalar "thickness" v
  · simpa using hvector "period" v
  · simpa using haxis "axis" v
  · simpa using hscalar "offset" v
  · simpa using hscalar "strength" v
  · simpa using hscalar "frequency" v
  · simpa using hscalar "amplitude" v
  · simpa using hscalar "minLimit" v
  · simpa using hscalar "maxLimit" v

/-- An operation is told by its kind and its settings. -/
lemma Operator.eq_of_settings {op op' : Operator α} (hkind : op.kind = op'.kind)
    (h : ∀ e, e ∈ op.settings ↔ e ∈ op'.settings) : op = op' := by
  have hblend : ∀ (p : Params α) (s : Setting α), ("blend", s) ∉ p.settings := by
    intro p s
    simp [Params.settings, Setting.mem_named]
  have hparams : op.params = op'.params := by
    refine Params.eq_of_settings fun ⟨key, s⟩ => ?_
    by_cases hkey : key = "blend"
    · subst hkey
      exact iff_of_false (hblend _ s) (hblend _ s)
    · have hentry := h (key, s)
      simpa [Operator.settings, hkey] using hentry
  have hvalue : op.blend = op'.blend := by
    have hmem := (h ("blend", .scalar op.blend)).mp (by simp [Operator.settings])
    simpa [Operator.settings, hblend] using hmem
  cases op
  cases op'
  simp_all only

end Settings

/-! ### Rebuilding a tree -/

namespace Node

variable {α : Type}

/-- What a record says about a node. -/
structure Recorded (n : Node α) (r : Record α) : Prop where
  kind_eq : r.kind = n.kind
  settings_eq : r.settings = n.settings
  children_eq : r.children = n.children.map id

/-- In a tree with distinct identifiers the records of an identifier are those of its node. -/
lemma recorded_of_mem {tree n : Node α} {r : Record α} (hids : tree.ids.Nodup)
    (hn : n ∈ tree.preorder) (h : (n.id, r) ∈ (Flat.ofScene (some tree)).records) :
    n.Recorded r := by
  obtain ⟨o, hpath, hid, rfl⟩ := Flat.path_of_find?_ofScene (Flat.find?_of_mem_records h)
  obtain rfl : o.node = n := eq_of_id_eq hids hpath.mem_preorder hn hid
  exact ⟨rfl, rfl, rfl⟩

/-- Every node has a record. -/
lemma exists_record {tree n : Node α} (hn : n ∈ tree.preorder) :
    ∃ r, (n.id, r) ∈ (Flat.ofScene (some tree)).records := by
  have hkey := (Flat.mem_keys_ofScene tree n.id).mpr (List.mem_map_of_mem hn)
  obtain ⟨⟨key, r⟩, hr, hkey⟩ := List.mem_map.mp hkey
  obtain rfl : key = n.id := hkey
  exact ⟨r, hr⟩

lemma map_essence_eq {cs ds : List (Node α)} (hids : cs.map id = ds.map id)
    (h : ∀ c ∈ cs, ∀ d ∈ ds, c.id = d.id → c.essence = d.essence) :
    cs.map essence = ds.map essence := by
  induction cs generalizing ds with
  | nil =>
    obtain rfl := List.map_eq_nil_iff.mp hids.symm
    rfl
  | cons c cs ih =>
    cases ds with
    | nil => cases hids
    | cons d ds =>
      obtain ⟨hid, hrest⟩ := List.cons.inj hids
      have htail := ih hrest fun c' hc' d' hd' =>
        h c' (List.mem_cons_of_mem c hc') d' (List.mem_cons_of_mem d hd')
      rw [List.map_cons, List.map_cons, htail,
        h c List.mem_cons_self d List.mem_cons_self hid]

/-- Nodes with the same identifier, kind and settings whose children agree are the same but for
names and what an editor shows. -/
lemma essence_eq_of_parts {n m : Node α} (hid : n.id = m.id) (hkind : n.kind = m.kind)
    (hsettings : ∀ e, e ∈ n.settings ↔ e ∈ m.settings)
    (hchildren : n.children.map essence = m.children.map essence) : n.essence = m.essence := by
  cases n with
  | primitive info body =>
    cases m with
    | primitive info' body' =>
      have hinfo : info.id = info'.id := hid
      have hbody : body = body' := Primitive.eq_of_settings (Kind.shape.inj hkind) hsettings
      rw [essence, essence, hinfo, hbody]
    | operation info' op' children' => cases hkind
  | operation info op children =>
    cases m with
    | primitive info' body' => cases hkind
    | operation info' op' children' =>
      have hinfo : info.id = info'.id := hid
      have hop : op = op' := Operator.eq_of_settings (Kind.op.inj hkind) hsettings
      have hrest : children.map essence = children'.map essence := hchildren
      rw [essence_operation, essence_operation, hinfo, hop, hrest]

section Written

variable {s t : Node Float32} (hs : s.ids.Nodup) (ht : t.ids.Nodup) (hsf : s.Finite)
  (htf : t.Finite)
  (hrecords : (sortByKey (Flat.ofScene (some s)).records).map (fun (id, r) => (id, r.toJson))
    = (sortByKey (Flat.ofScene (some t)).records).map fun (id, r) => (id, r.toJson))

include hs ht hsf htf hrecords

/-- Where the records of two trees are written alike, nodes with the same identifier agree in kind,
settings and children. -/
lemma parts_eq_of_records {n m : Node Float32} (hn : n ∈ s.preorder) (hm : m ∈ t.preorder)
    (hid : n.id = m.id) :
    n.kind = m.kind ∧ (∀ e, e ∈ n.settings ↔ e ∈ m.settings) ∧
      n.children.map id = m.children.map id := by
  obtain ⟨r, hr⟩ := exists_record hn
  obtain ⟨r', hr', hdocument⟩ := exists_mem_of_sortByKey_eq hrecords hr
  have hrn := recorded_of_mem hs hn hr
  rw [hid] at hr'
  have hrm := recorded_of_mem ht hm hr'
  have hfinite : ∀ e ∈ r.settings, e.2.Finite := by
    rw [hrn.settings_eq]
    exact hsf n hn
  have hfinite' : ∀ e ∈ r'.settings, e.2.Finite := by
    rw [hrm.settings_eq]
    exact htf m hm
  obtain ⟨hkind, hsub, hchildren⟩ := Record.eq_of_toJson_eq hfinite hfinite' hdocument.symm
  obtain ⟨-, hsub', -⟩ := Record.eq_of_toJson_eq hfinite' hfinite hdocument
  rw [hrn.kind_eq, hrm.kind_eq] at hkind
  rw [hrn.settings_eq, hrm.settings_eq] at hsub hsub'
  rw [hrn.children_eq, hrm.children_eq] at hchildren
  exact ⟨hkind, fun e => ⟨fun he => hsub he, fun he => hsub' he⟩, hchildren⟩

/-- Where the records of two trees are written alike, nodes with the same identifier are the same
but for names and what an editor shows. -/
lemma essence_eq_of_records {n m : Node Float32} (hn : n ∈ s.preorder) (hm : m ∈ t.preorder)
    (hid : n.id = m.id) : n.essence = m.essence := by
  induction n generalizing m with
  | primitive info body =>
    obtain ⟨hkind, hsettings, hchildren⟩ := parts_eq_of_records hs ht hsf htf hrecords hn hm hid
    exact essence_eq_of_parts hid hkind hsettings (map_essence_eq hchildren nofun)
  | operation info op children ih =>
    obtain ⟨hkind, hsettings, hchildren⟩ := parts_eq_of_records hs ht hsf htf hrecords hn hm hid
    refine essence_eq_of_parts hid hkind hsettings (map_essence_eq hchildren ?_)
    -- children with the same identifier are again nodes of the two trees
    intro c hc d hd hcd
    have hcs : c ∈ s.preorder :=
      (preorder_sublist hn).subset (mem_preorder_of_mem_children hc c.self_mem_preorder)
    have hdt : d ∈ t.preorder :=
      (preorder_sublist hm).subset (mem_preorder_of_mem_children hd d.self_mem_preorder)
    exact ih c hc hcs hdt hcd

end Written

end Node

/-! ### The text -/

/-- The canonical text of a scene tells the scene, up to names and what an editor shows. -/
lemma Flat.map_essence_eq_of_canonical_eq {s t : Option (Node Float32)}
    (hs : ∀ tree ∈ s, tree.ids.Nodup ∧ tree.Finite) (ht : ∀ tree ∈ t, tree.ids.Nodup ∧ tree.Finite)
    (h : (ofScene s).canonical = (ofScene t).canonical) :
    s.map Node.essence = t.map Node.essence := by
  have hdocument := Json.eq_of_render_eq (proper_toJson _) (proper_toJson _) h
  have hfields := Json.record_injective hdocument
  simp only [List.cons.injEq, Prod.mk.injEq, true_and, and_true] at hfields
  obtain ⟨hroot, horder, hnodes⟩ := hfields
  have horder := Json.ids_injective horder
  cases s with
  | none =>
    cases t with
    | none => rfl
    | some tree =>
      rw [order_ofScene, Node.postorder_eq] at horder
      simp [ofScene] at horder
  | some stree =>
    cases t with
    | none =>
      rw [order_ofScene, Node.postorder_eq] at horder
      simp [ofScene] at horder
    | some ttree =>
      obtain ⟨hsids, hsfinite⟩ := hs stree rfl
      obtain ⟨htids, htfinite⟩ := ht ttree rfl
      exact congrArg some (Node.essence_eq_of_records hsids htids hsfinite htfinite
        (Json.record_injective hnodes) stree.self_mem_preorder ttree.self_mem_preorder
        (Json.text_injective hroot))

/-- Two scenes with distinct identifiers and finite numbers have the same canonical text exactly if
they are the same but for names and what an editor shows. Then they have the same program in every
style, and the same field. -/
theorem Flat.canonical_eq_iff {s t : Option (Node Float32)}
    (hs : ∀ tree ∈ s, tree.ids.Nodup ∧ tree.Finite)
    (ht : ∀ tree ∈ t, tree.ids.Nodup ∧ tree.Finite) :
    ((ofScene s).canonical = (ofScene t).canonical ↔ s.map Node.essence = t.map Node.essence) ∧
    ((ofScene s).canonical = (ofScene t).canonical →
      (∀ style, Shader.Program.ofScene style s = Shader.Program.ofScene style t) ∧
      ∀ p, Field.eval s p = Field.eval t p) := by
  refine ⟨⟨map_essence_eq_of_canonical_eq hs ht, fun h => ?_⟩, fun h => ?_⟩
  · rw [← Node.ofScene_map_essence s, h, Node.ofScene_map_essence t]
  · have hessence := map_essence_eq_of_canonical_eq hs ht h
    refine ⟨fun style => ?_, fun p => ?_⟩
    · rw [← Node.program_map_essence style s, hessence, Node.program_map_essence style t]
    · rw [← Node.eval_map_essence s p, hessence, Node.eval_map_essence t p]

/-- A disc in a reflection whose identifier needs escapes. -/
def quotedDisc (name : Option String) (x : Float32) : Node Float32 :=
  (Node.combine "left \"m\"\n" .mirror [.circle "disc" ⟨x, 0.0⟩ 0.1]).withName name

/-- A name does not show in the canonical text, and the sign of a zero does. -/
theorem Flat.canonical_quotedDisc :
    let plain := some (quotedDisc none 0.0)
    let named := some (quotedDisc (some "Disc") 0.0)
    let signed := some (quotedDisc none (-0.0))
    (∀ scene ∈ [plain, named, signed], ∀ tree ∈ scene, tree.ids.Nodup ∧ tree.Finite) ∧
    (ofScene plain).canonical = (ofScene named).canonical ∧
    (ofScene plain).canonical ≠ (ofScene signed).canonical := by
  intro plain named signed
  have hscenes : ∀ scene ∈ [plain, named, signed], ∀ tree ∈ scene,
      tree.ids.Nodup ∧ tree.Finite := by
    decide +kernel
  have hplain := hscenes plain (by simp)
  refine ⟨hscenes, (canonical_eq_iff hplain (hscenes named (by simp))).1.mpr rfl, fun h => ?_⟩
  have hessence := (canonical_eq_iff hplain (hscenes signed (by simp))).1.mp h
  have hsettings := congrArg (Option.map fun n => n.children.map Node.settings) hessence
  exact absurd hsettings (by decide +kernel)

end DistanceField
