import Mathlib
import DistanceField.Node.Decode
import DistanceField.Node.Encode
import DistanceField.Proofs.Flat.Canonical
import DistanceField.Proofs.Json.View

/-!
# Reading back the text of a tree

NaN and the infinities are written as null. Where a number has to be set, null is refused; where it
may be unset, null reads as unset. So a tree is read back if its mandatory numbers and the vectors
that are set are finite, and what is read is the tree without the optional numbers that are not.

How a number is read from its token is left to the arithmetic of tokens: of a tree it is asked that
the numbers in it are read back from their own tokens.
-/

namespace DistanceField

/-! ### Numbers -/

/-- A number that is read back from its token, if it has one. -/
def Numeral.Faithful (x : Float32) : Prop := ∀ t ∈ ofBinary32? x, binary32? t = some x

instance (x : Float32) : Decidable (Numeral.Faithful x) :=
  inferInstanceAs (Decidable (∀ t ∈ Numeral.ofBinary32? x, Numeral.binary32? t = some x))

lemma filter_isFinite_eq_self {o : Option Float32} (h : ∀ x ∈ o, x.isFinite = true) :
    o.filter Float32.isFinite = o := by
  cases o with
  | none => rfl
  | some x => rw [Option.filter_some, if_pos (h x rfl)]

namespace Json

lemma toJson_eq_null {x : Float32} (h : x.isFinite = false) : JsonScalar.toJson x = null := by
  change optional number (Numeral.ofBinary32? x) = null
  rw [Numeral.ofBinary32?, Binary32.parts?_eq_none h]
  rfl

/-- A number that has to be set is read if it is finite. -/
lemma scalar?_toJson {x : Float32} (h : Numeral.Faithful x) :
    scalar? (JsonScalar.toJson x) = if x.isFinite then some x else none := by
  cases hx : x.isFinite with
  | false => rw [toJson_eq_null hx]; rfl
  | true =>
    obtain ⟨t, ht, hjson⟩ := exists_toJson_eq hx
    rw [hjson]
    exact h t ht

/-- An optional number is read, as unset if it is not finite. -/
lemma optional?_optional_toJson {o : Option Float32} (h : ∀ x ∈ o, Numeral.Faithful x) :
    optional? scalar? (some (optional JsonScalar.toJson o))
      = some (o.filter Float32.isFinite) := by
  cases o with
  | none => rfl
  | some x =>
    rw [Option.filter_some, optional]
    cases hx : x.isFinite with
    | false => rw [toJson_eq_null hx]; rfl
    | true =>
      obtain ⟨t, ht, hjson⟩ := exists_toJson_eq hx
      have hread : scalar? (number t) = some x := h x rfl t ht
      rw [hjson]
      exact congrArg (Option.map some) hread

lemma isReadable_toJson {x : Float32} (h : Numeral.Faithful x) :
    (JsonScalar.toJson x).isReadable Float32 = true := by
  cases hx : x.isFinite with
  | false => rw [toJson_eq_null hx]; rfl
  | true =>
    obtain ⟨t, ht, hjson⟩ := exists_toJson_eq hx
    have hread : JsonScalar.ofNumeral? t = some x := h t ht
    rw [hjson, isReadable, hread, Option.isSome_some]

end Json

/-! ### Vectors -/

/-- Whether both coordinates are finite. -/
def Vec2.isFinite (v : Vec2 Float32) : Bool := v.x.isFinite && v.y.isFinite

/-- A vector whose coordinates are read back from their tokens. -/
def Vec2.Faithful (v : Vec2 Float32) : Prop := Numeral.Faithful v.x ∧ Numeral.Faithful v.y

namespace Json

lemma vec2?_ofVec2 {v : Vec2 Float32} (h : v.Faithful) :
    vec2? (ofVec2 v) = if v.isFinite then some v else none := by
  rw [ofVec2, vec2?, scalar?_toJson h.1, scalar?_toJson h.2, Vec2.isFinite]
  cases v.x.isFinite <;> cases v.y.isFinite <;> rfl

lemma optional?_optional_ofVec2 {o : Option (Vec2 Float32)} (h : ∀ v ∈ o, v.Faithful) :
    optional? vec2? (some (optional ofVec2 o)) = if o.all Vec2.isFinite then some o else none := by
  cases o with
  | none => rfl
  | some v =>
    change (vec2? (ofVec2 v)).map some = _
    rw [vec2?_ofVec2 (h v rfl), Option.all_some]
    cases v.isFinite <;> rfl

lemma isReadable_ofVec2 {v : Vec2 Float32} (h : v.Faithful) :
    (ofVec2 v).isReadable Float32 = true := by
  rw [ofVec2, isReadable, areReadable, areReadable, areReadable, isReadable_toJson h.1,
    isReadable_toJson h.2]
  rfl

lemma proper_ofVec2 (v : Vec2 Float32) : (ofVec2 v).Proper :=
  .array (by simp [proper_toJson])

lemma proper_optional {β : Type} {f : β → Json} (h : ∀ b, (f b).Proper) (o : Option β) :
    (optional f o).Proper := by
  cases o with
  | none => exact .null
  | some b => exact h b

/-- A value that is never written as null is read back where it may be unset. -/
lemma optional?_optional {β : Type} {f : β → Json} {g : Json → Option β}
    (hnull : ∀ b, f b ≠ null) (hread : ∀ b, g (f b) = some b) (o : Option β) :
    optional? g (some (optional f o)) = some o := by
  cases o with
  | none => rfl
  | some b =>
    rw [optional, optional?, hread, Option.map_some]
    exact hnull b

end Json

/-! ### Settings -/

/-- A parameter whose numbers are read back from their tokens. -/
def Setting.Faithful (s : Setting Float32) : Prop := ∀ x ∈ s.numbers, Numeral.Faithful x

namespace Setting

@[simp] lemma faithful_scalar {x : Float32} : (scalar x).Faithful ↔ Numeral.Faithful x := by
  simp [Faithful, numbers]

@[simp] lemma faithful_vector {v : Vec2 Float32} : (vector v).Faithful ↔ v.Faithful := by
  simp [Faithful, numbers, Vec2.Faithful]

@[simp] lemma finite_scalar {x : Float32} : (scalar x).Finite ↔ x.isFinite = true := by
  simp [Setting.Finite, numbers]

@[simp] lemma finite_vector {v : Vec2 Float32} : (vector v).Finite ↔ v.isFinite = true := by
  simp [Setting.Finite, numbers, Vec2.isFinite]

/-- What holds of a parameter under its name holds of its value if it is set. -/
@[simp] lemma forall_mem_named {α β : Type} {P : Setting α → Prop} {name : String}
    {f : β → Setting α} {o : Option β} :
    (∀ s ∈ named name f o, P s.2) ↔ ∀ b ∈ o, P (f b) := by
  cases o with
  | none => simp [named]
  | some b => simp [named]

end Setting

/-! ### Names -/

lemma ShapeKind.ofName?_name (k : ShapeKind) : ShapeKind.ofName? k.name = some k := by
  cases k <;> rfl

lemma OpKind.ofName?_name (k : OpKind) : OpKind.ofName? k.name = some k := by
  cases k <;> rfl

lemma Axis.toJson_ne_null (a : Axis) : a.toJson ≠ .null := Json.text_ne_null a.name

lemma Axis.ofJson?_toJson (a : Axis) : Axis.ofJson? a.toJson = some a := by
  rw [ofJson?, toJson, Json.name?_text, Option.bind_some, ofName?_name]

lemma Axis.proper_toJson (a : Axis) : a.toJson.Proper := Json.proper_text a.name

/-! ### Shapes -/

namespace Shape

/-- Whether a shape is read back: a size by coordinates has to be finite. -/
def isStorable : Shape Float32 → Bool
  | .box size => size.all Vec2.isFinite
  | _ => true

/-- The shape without the optional numbers that are not finite. -/
def dropNonFinite : Shape Float32 → Shape Float32
  | .circle radius => .circle (radius.filter Float32.isFinite)
  | .box size => .box size
  | .capsule radius length =>
    .capsule (radius.filter Float32.isFinite) (length.filter Float32.isFinite)

lemma proper_toJson (shape : Shape Float32) : shape.toJson.Proper := by
  cases shape <;> exact Json.proper_record (by
    simp [Json.proper_text, Json.proper_optional, Json.proper_toJson, Json.proper_ofVec2])

lemma isReadable_toJson {shape : Shape Float32} (h : ∀ s ∈ shape.settings, s.2.Faithful) :
    shape.toJson.isReadable Float32 = true := by
  have hscalar : ∀ {o : Option Float32}, (∀ x ∈ o, Numeral.Faithful x) →
      (Json.optional JsonScalar.toJson o).isReadable Float32 = true :=
    fun h => Json.isReadable_optional fun x hx => Json.isReadable_toJson (h x hx)
  cases shape with
  | circle radius =>
    simp only [settings, Setting.forall_mem_named, Setting.faithful_scalar] at h
    simp [toJson, Json.isReadable_record, hscalar h]
  | box size =>
    simp only [settings, Setting.forall_mem_named, Setting.faithful_vector] at h
    have hsize := Json.isReadable_optional fun v hv => Json.isReadable_ofVec2 (h v hv)
    simp [toJson, Json.isReadable_record, hsize]
  | capsule radius length =>
    simp only [settings, List.forall_mem_append, Setting.forall_mem_named,
      Setting.faithful_scalar] at h
    simp [toJson, Json.isReadable_record, hscalar h.1, hscalar h.2]

lemma ofJson?_toJson {shape : Shape Float32} (h : ∀ s ∈ shape.settings, s.2.Faithful) :
    ofJson? shape.toJson = if shape.isStorable then some shape.dropNonFinite else none := by
  -- the whole document is gone through before its tag is looked at
  rw [ofJson?, isReadable_toJson h]
  cases shape with
  | circle radius =>
    simp only [settings, Setting.forall_mem_named, Setting.faithful_scalar] at h
    have hkind : ShapeKind.ofName? "circle" = some .circle := ShapeKind.ofName?_name .circle
    rw [toJson, Json.tagged?_record _ (by simp)]
    simp only [guard_true, Option.pure_def, Option.bind_eq_bind, Option.bind_some, hkind]
    rw [Json.record?_record]
    · simp only [List.map_cons, List.map_nil, Option.bind_some, Json.optional?_optional_toJson h]
      rfl
    · rfl
    · decide
  | box size =>
    simp only [settings, Setting.forall_mem_named, Setting.faithful_vector] at h
    have hkind : ShapeKind.ofName? "box" = some .box := ShapeKind.ofName?_name .box
    rw [toJson, Json.tagged?_record _ (by simp)]
    simp only [guard_true, Option.pure_def, Option.bind_eq_bind, Option.bind_some, hkind]
    rw [Json.record?_record, isStorable]
    · simp only [List.map_cons, List.map_nil, Option.bind_some, Json.optional?_optional_ofVec2 h]
      cases size.all Vec2.isFinite <;> rfl
    · rfl
    · decide
  | capsule radius length =>
    simp only [settings, List.forall_mem_append, Setting.forall_mem_named,
      Setting.faithful_scalar] at h
    have hkind : ShapeKind.ofName? "capsule" = some .capsule := ShapeKind.ofName?_name .capsule
    rw [toJson, Json.tagged?_record _ (by simp)]
    simp only [guard_true, Option.pure_def, Option.bind_eq_bind, Option.bind_some, hkind]
    rw [Json.record?_record]
    · simp only [List.map_cons, List.map_nil, Option.bind_some,
        Json.optional?_optional_toJson h.1, Json.optional?_optional_toJson h.2]
      rfl
    · rfl
    · decide

lemma dropNonFinite_of_finite {shape : Shape Float32} (h : ∀ s ∈ shape.settings, s.2.Finite) :
    shape.isStorable = true ∧ shape.dropNonFinite = shape := by
  cases shape with
  | circle radius =>
    simp only [settings, Setting.forall_mem_named, Setting.finite_scalar] at h
    exact ⟨rfl, congrArg circle (filter_isFinite_eq_self h)⟩
  | box size =>
    simp only [settings, Setting.forall_mem_named, Setting.finite_vector] at h
    exact ⟨(Option.all_eq_true _ _).mpr h, rfl⟩
  | capsule radius length =>
    simp only [settings, List.forall_mem_append, Setting.forall_mem_named,
      Setting.finite_scalar] at h
    exact ⟨rfl, congrArg₂ capsule (filter_isFinite_eq_self h.1) (filter_isFinite_eq_self h.2)⟩

end Shape

/-! ### Operations -/

namespace Params

/-- Whether parameters are read back: a parameter by coordinates has to be finite. -/
def isStorable (p : Params Float32) : Bool := p.period.all Vec2.isFinite

/-- The parameters without the numbers that are not finite. -/
def dropNonFinite (p : Params Float32) : Params Float32 :=
  { p with
    opRadius := p.opRadius.filter Float32.isFinite
    thickness := p.thickness.filter Float32.isFinite
    offset := p.offset.filter Float32.isFinite
    strength := p.strength.filter Float32.isFinite
    frequency := p.frequency.filter Float32.isFinite
    amplitude := p.amplitude.filter Float32.isFinite
    minLimit := p.minLimit.filter Float32.isFinite
    maxLimit := p.maxLimit.filter Float32.isFinite }

lemma proper_toJson (p : Params Float32) : p.toJson.Proper :=
  Json.proper_record (by
    simp [Json.proper_optional, Json.proper_toJson, Json.proper_ofVec2, Axis.proper_toJson])

lemma ofJson?_toJson {p : Params Float32} (h : ∀ s ∈ p.settings, s.2.Faithful) :
    ofJson? p.toJson = if p.isStorable then some p.dropNonFinite else none := by
  simp only [settings, List.forall_mem_append, Setting.forall_mem_named, Setting.faithful_scalar,
    Setting.faithful_vector] at h
  obtain ⟨⟨⟨⟨⟨⟨⟨⟨⟨hopRadius, hthickness⟩, hperiod⟩, -⟩, hoffset⟩, hstrength⟩, hfrequency⟩,
    hamplitude⟩, hminLimit⟩, hmaxLimit⟩ := h
  have haxis : Json.optional? Axis.ofJson? (some (.optional Axis.toJson p.axis)) = some p.axis :=
    Json.optional?_optional Axis.toJson_ne_null Axis.ofJson?_toJson p.axis
  rw [ofJson?, toJson, Json.record?_record, isStorable]
  · -- ten values, spelled out so that the match on them reduces
    change Option.bind (some [_, _, _, _, _, _, _, _, _, _]) _ = _
    simp only [Option.pure_def, Option.bind_eq_bind, Option.bind_some,
      Json.optional?_optional_toJson hopRadius, Json.optional?_optional_toJson hthickness,
      Json.optional?_optional_ofVec2 hperiod, haxis, Json.optional?_optional_toJson hoffset,
      Json.optional?_optional_toJson hstrength, Json.optional?_optional_toJson hfrequency,
      Json.optional?_optional_toJson hamplitude, Json.optional?_optional_toJson hminLimit,
      Json.optional?_optional_toJson hmaxLimit]
    cases p.period.all Vec2.isFinite <;> rfl
  · rfl
  · decide

lemma dropNonFinite_of_finite {p : Params Float32} (h : ∀ s ∈ p.settings, s.2.Finite) :
    p.isStorable = true ∧ p.dropNonFinite = p := by
  simp only [settings, List.forall_mem_append, Setting.forall_mem_named, Setting.finite_scalar,
    Setting.finite_vector] at h
  obtain ⟨⟨⟨⟨⟨⟨⟨⟨⟨hopRadius, hthickness⟩, hperiod⟩, -⟩, hoffset⟩, hstrength⟩, hfrequency⟩,
    hamplitude⟩, hminLimit⟩, hmaxLimit⟩ := h
  refine ⟨(Option.all_eq_true _ _).mpr hperiod, ?_⟩
  rw [dropNonFinite, filter_isFinite_eq_self hopRadius, filter_isFinite_eq_self hthickness,
    filter_isFinite_eq_self hoffset, filter_isFinite_eq_self hstrength,
    filter_isFinite_eq_self hfrequency, filter_isFinite_eq_self hamplitude,
    filter_isFinite_eq_self hminLimit, filter_isFinite_eq_self hmaxLimit]

end Params

namespace Operator

/-- Whether an operation is read back. -/
def isStorable (op : Operator Float32) : Bool := op.blend.isFinite && op.params.isStorable

/-- The operation without the parameters that are not finite. -/
def dropNonFinite (op : Operator Float32) : Operator Float32 :=
  { op with params := op.params.dropNonFinite }

lemma depth_lt_toJson {α : Type} [JsonScalar α] {op : Operator α} {children : List Json}
    {child : Json} (h : child ∈ children) : child.depth < (op.toJson children).depth :=
  (Json.depth_lt_array h).trans
    (Json.depth_lt_record "children" (List.mem_cons_of_mem _ List.mem_cons_self))

lemma proper_toJson {op : Operator Float32} {children : List Json}
    (h : ∀ child ∈ children, child.Proper) : (op.toJson children).Proper :=
  Json.proper_record (by
    simp [Json.proper_text, Json.Proper.array h, Json.proper_toJson, Params.proper_toJson])

lemma ofJson?_toJson {op : Operator Float32} (h : ∀ s ∈ op.settings, s.2.Faithful)
    (children : List Json) :
    ofJson? (op.toJson children)
      = if op.isStorable then some (op.dropNonFinite, children) else none := by
  simp only [settings, List.forall_mem_cons, Setting.faithful_scalar] at h
  obtain ⟨hblend, hparams⟩ := h
  have hkind : OpKind.ofJson? (.text op.kind.name) = some op.kind := by
    rw [OpKind.ofJson?, Json.name?_text, Option.bind_some, OpKind.ofName?_name]
  rw [ofJson?, toJson, Json.record?_record]
  · simp only [Option.pure_def, Option.bind_eq_bind, Option.bind_some, List.map_cons, List.map_nil,
      Json.required?, hkind, Json.scalar?_toJson hblend, Params.ofJson?_toJson hparams,
      Json.items?]
    rw [isStorable]
    cases op.blend.isFinite <;> cases op.params.isStorable <;> rfl
  · rfl
  · decide

lemma dropNonFinite_of_finite {op : Operator Float32} (h : ∀ s ∈ op.settings, s.2.Finite) :
    op.isStorable = true ∧ op.dropNonFinite = op := by
  simp only [settings, List.forall_mem_cons, Setting.finite_scalar] at h
  obtain ⟨hstorable, hparams⟩ := Params.dropNonFinite_of_finite h.2
  exact ⟨Bool.and_eq_true_iff.mpr ⟨h.1, hstorable⟩, by rw [dropNonFinite, hparams]⟩

end Operator

/-! ### Placed shapes -/

namespace Primitive

/-- Whether a placed shape is read back. -/
def isStorable (b : Primitive Float32) : Bool :=
  b.position.isFinite && b.rotation.isFinite && b.scale.isFinite && b.shape.isStorable

/-- The placed shape without the sizes that are not finite. -/
def dropNonFinite (b : Primitive Float32) : Primitive Float32 :=
  { b with shape := b.shape.dropNonFinite }

lemma proper_toJson (b : Primitive Float32) : b.toJson.Proper :=
  Json.proper_record (by simp [Json.proper_ofVec2, Json.proper_toJson, Shape.proper_toJson])

lemma ofJson?_toJson {b : Primitive Float32} (h : ∀ s ∈ b.settings, s.2.Faithful) :
    ofJson? b.toJson = if b.isStorable then some b.dropNonFinite else none := by
  simp only [settings, List.forall_mem_append, List.forall_mem_cons, Setting.faithful_scalar,
    Setting.faithful_vector] at h
  obtain ⟨⟨hposition, hrotation, hscale, -⟩, hshape⟩ := h
  rw [ofJson?, toJson, Json.record?_record]
  · simp only [Option.pure_def, Option.bind_eq_bind, Option.bind_some, List.map_cons, List.map_nil,
      Json.required?, Json.vec2?_ofVec2 hposition, Json.scalar?_toJson hrotation,
      Json.vec2?_ofVec2 hscale, Shape.ofJson?_toJson hshape]
    rw [isStorable]
    cases b.position.isFinite <;> cases b.rotation.isFinite <;> cases b.scale.isFinite <;>
      cases b.shape.isStorable <;> rfl
  · rfl
  · decide

lemma dropNonFinite_of_finite {b : Primitive Float32} (h : ∀ s ∈ b.settings, s.2.Finite) :
    b.isStorable = true ∧ b.dropNonFinite = b := by
  simp only [settings, List.forall_mem_append, List.forall_mem_cons, Setting.finite_scalar,
    Setting.finite_vector] at h
  obtain ⟨⟨hposition, hrotation, hscale, -⟩, hshape⟩ := h
  obtain ⟨hstorable, hdrop⟩ := Shape.dropNonFinite_of_finite hshape
  refine ⟨?_, by rw [dropNonFinite, hdrop]⟩
  rw [isStorable, hposition, hrotation, hscale, hstorable]
  rfl

end Primitive

lemma Info.depth_lt_toJson (info : Info) (body : Json) : body.depth < (info.toJson body).depth :=
  Json.depth_lt_record "body" (by simp)

lemma Info.proper_toJson (info : Info) {body : Json} (h : body.Proper) :
    (info.toJson body).Proper :=
  Json.proper_record (by
    simp [Json.proper_text, Json.proper_optional, Json.Proper.bool, h])

lemma Info.ofJson?_toJson (info : Info) (body : Json) :
    ofJson? (info.toJson body) = some (info, body) := by
  have hname : Json.optional? Json.text? (some (.optional .text info.name)) = some info.name :=
    Json.optional?_optional Json.text_ne_null Json.text?_text info.name
  rw [ofJson?, toJson, Json.record?_record]
  · simp only [Option.pure_def, Option.bind_eq_bind, Option.bind_some, List.map_cons, List.map_nil,
      Json.required?, Json.text?_text, hname, Json.bool?]
  · rfl
  · decide

/-! ### Trees -/

namespace Node

/-- A tree whose numbers are read back from their tokens. -/
def Faithful (tree : Node Float32) : Prop :=
  ∀ n ∈ tree.preorder, ∀ s ∈ n.settings, s.2.Faithful

instance (tree : Node Float32) : Decidable tree.Faithful :=
  inferInstanceAs (Decidable (∀ n ∈ tree.preorder, ∀ s ∈ n.settings, ∀ x ∈ s.2.numbers,
    Numeral.Faithful x))

/-- Whether the node is read back, its children apart. -/
def bodyIsStorable : Node Float32 → Bool
  | .primitive _ body => body.isStorable
  | .operation _ op _ => op.isStorable

/-- Whether the tree is read back: the numbers that have to be set and the vectors that are set are
finite at every node. -/
def isStorable (tree : Node Float32) : Bool := tree.preorder.all bodyIsStorable

mutual

/-- The tree without the optional numbers that are not finite. -/
def dropNonFinite : Node Float32 → Node Float32
  | .primitive info body => .primitive info body.dropNonFinite
  | .operation info op children =>
    .operation info op.dropNonFinite (dropNonFiniteList children)

/-- The trees of a list without the optional numbers that are not finite. -/
def dropNonFiniteList : List (Node Float32) → List (Node Float32)
  | [] => []
  | n :: rest => n.dropNonFinite :: dropNonFiniteList rest

end

lemma dropNonFiniteList_eq (ns : List (Node Float32)) :
    dropNonFiniteList ns = ns.map dropNonFinite := by
  induction ns with
  | nil => rfl
  | cons n rest ih => rw [dropNonFiniteList, ih, List.map_cons]

lemma dropNonFinite_operation (info : Info) (op : Operator Float32)
    (children : List (Node Float32)) :
    (operation info op children).dropNonFinite
      = .operation info op.dropNonFinite (children.map dropNonFinite) := by
  rw [dropNonFinite, dropNonFiniteList_eq]

lemma isStorable_operation (info : Info) (op : Operator Float32)
    (children : List (Node Float32)) :
    (operation info op children).isStorable = (op.isStorable && children.all isStorable) := by
  rw [isStorable, preorder_eq, List.all_cons, children_operation, List.all_flatMap]
  rfl

/-- A tree of finite numbers is read back, and nothing is dropped from it. -/
lemma dropNonFinite_of_finite {tree : Node Float32} (h : tree.Finite) :
    tree.isStorable = true ∧ tree.dropNonFinite = tree := by
  induction tree with
  | primitive info body =>
    obtain ⟨hstorable, hdrop⟩ :=
      Primitive.dropNonFinite_of_finite (h _ (self_mem_preorder _))
    refine ⟨?_, by rw [dropNonFinite, hdrop]⟩
    rw [isStorable, preorder, List.all_cons, bodyIsStorable, hstorable]
    rfl
  | operation info op children ih =>
    obtain ⟨hop, hchildren⟩ := forall_mem_preorder_operation.mp h
    obtain ⟨hstorable, hdrop⟩ := Operator.dropNonFinite_of_finite hop
    refine ⟨?_, ?_⟩
    · rw [isStorable_operation, hstorable, Bool.true_and, List.all_eq_true]
      exact fun c hc => (ih c hc (hchildren c hc)).1
    · have hmap := List.map_congr_left fun c hc => (ih c hc (hchildren c hc)).2
      rw [dropNonFinite_operation, hdrop, hmap, List.map_id']

/-! ### Documents -/

section Documents

variable {α : Type} [JsonScalar α]

lemma toJsonList_eq (ns : List (Node α)) : toJsonList ns = ns.map toJson := by
  induction ns with
  | nil => rfl
  | cons n rest ih => rw [toJsonList, ih, List.map_cons]

lemma toJson_operation (info : Info) (op : Operator α) (children : List (Node α)) :
    (operation info op children).toJson
      = info.toJson (.record [("Operation", op.toJson (children.map toJson))]) := by
  rw [toJson, toJsonList_eq]

lemma depth_toJson_lt {info : Info} {op : Operator α} {children : List (Node α)} {c : Node α}
    (hc : c ∈ children) : c.toJson.depth < (operation info op children).toJson.depth := by
  rw [toJson_operation]
  calc c.toJson.depth < (op.toJson (children.map toJson)).depth :=
        Operator.depth_lt_toJson (List.mem_map_of_mem hc)
    _ < (Json.record [("Operation", op.toJson (children.map toJson))]).depth :=
        Json.depth_lt_record "Operation" List.mem_cons_self
    _ < _ := info.depth_lt_toJson _

end Documents

lemma ofJsonUpTo?_primitive {info : Info} {body : Primitive Float32}
    (h : ∀ s ∈ body.settings, s.2.Faithful) (depth : Nat) :
    ofJsonUpTo? (depth + 1) (primitive info body).toJson
      = if body.isStorable then some (.primitive info body.dropNonFinite) else none := by
  rw [ofJsonUpTo?, toJson, Info.ofJson?_toJson]
  simp only [Option.bind_eq_bind, Option.bind_some, Json.single?_record,
    Primitive.ofJson?_toJson h]
  cases body.isStorable <;> rfl

lemma ofJsonUpTo?_operation {info : Info} {op : Operator Float32} {children : List (Node Float32)}
    (h : ∀ s ∈ op.settings, s.2.Faithful) (depth : Nat) :
    ofJsonUpTo? (depth + 1) (operation info op children).toJson
      = if op.isStorable then ((children.map toJson).mapM (ofJsonUpTo? depth)).map
          (.operation info op.dropNonFinite) else none := by
  rw [ofJsonUpTo?, toJson_operation, Info.ofJson?_toJson]
  simp only [Option.bind_eq_bind, Option.bind_some, Json.single?_record,
    Operator.ofJson?_toJson h]
  cases op.isStorable with
  | false => rfl
  | true => exact Option.map_eq_bind.symm

/-- The document of a tree, read to any depth that it is nested to. -/
lemma ofJsonUpTo?_toJson {tree : Node Float32} (h : tree.Faithful) {depth : Nat}
    (hdepth : tree.toJson.depth ≤ depth) :
    ofJsonUpTo? depth tree.toJson
      = if tree.isStorable then some tree.dropNonFinite else none := by
  -- a node is several levels of its document, so a step less is enough for its children
  induction tree generalizing depth with
  | primitive info body =>
    cases depth with
    | zero => cases (info.depth_lt_toJson _).trans_le hdepth
    | succ depth =>
      rw [ofJsonUpTo?_primitive (h _ (self_mem_preorder _)), isStorable, preorder, List.all_cons,
        List.all_nil, Bool.and_true, bodyIsStorable, dropNonFinite]
  | operation info op children ih =>
    cases depth with
    | zero => cases (info.depth_lt_toJson _).trans_le hdepth
    | succ depth =>
      obtain ⟨hop, hchildren⟩ := forall_mem_preorder_operation.mp h
      have hread : (children.map toJson).mapM (ofJsonUpTo? depth)
          = if children.all isStorable then some (children.map dropNonFinite) else none := by
        rw [List.mapM_map]
        exact Json.mapM_eq_ite fun c hc =>
          ih c hc (hchildren c hc) (Nat.le_of_lt_succ ((depth_toJson_lt hc).trans_le hdepth))
      rw [ofJsonUpTo?_operation hop, hread, isStorable_operation, dropNonFinite_operation]
      cases op.isStorable <;> cases children.all isStorable <;> rfl

lemma proper_toJson (tree : Node Float32) : tree.toJson.Proper := by
  induction tree with
  | primitive info body =>
    rw [toJson]
    exact Info.proper_toJson info (Json.proper_record (by simp [Primitive.proper_toJson]))
  | operation info op children ih =>
    have hchildren : ∀ child ∈ children.map toJson, child.Proper := by
      simpa only [List.forall_mem_map] using ih
    rw [toJson_operation]
    exact Info.proper_toJson info
      (Json.proper_record (by simp [Operator.proper_toJson hchildren]))

/-- The text of a tree is read back exactly if the numbers that have to be set and the vectors that
are set are finite, as the tree without the optional numbers that are not. A tree of finite numbers
is read back as it is. -/
theorem decode?_encode {tree : Node Float32} (h : tree.Faithful) :
    decode? tree.encode = (if tree.isStorable then some tree.dropNonFinite else none) ∧
      (tree.Finite → decode? tree.encode = some tree) := by
  have hread : decode? tree.encode = if tree.isStorable then some tree.dropNonFinite else none := by
    rw [decode?, encode, Json.parse?_render (proper_toJson tree), Option.bind_some, ofJson?,
      ofJsonUpTo?_toJson h le_rfl]
  refine ⟨hread, fun hfinite => ?_⟩
  obtain ⟨hstorable, hdrop⟩ := dropNonFinite_of_finite hfinite
  rw [hread, hstorable, hdrop, if_pos rfl]

/-- A shell around a disc, with a thickness and a radius that may be unset. -/
def shelledDisc (x : Float32) (width : Option Float32) : Node Float32 :=
  .operation { id := "\"skal\" ∂\n", name := some "Skål" }
    { kind := .shell, blend := 0.1, params := { thickness := width, axis := some .y } }
    [.primitive { id := "disc" } ⟨⟨x, 1e-45⟩, 3.4028235e38, Vec2.one, .circle width⟩]

/-- The sign of a zero is kept, an infinite width is unset, and an infinite position is refused. -/
theorem decode?_encode_shelledDisc :
    let plain := shelledDisc (-0.0) (some 0.3)
    let wide := shelledDisc (-0.0) (some Binary32.infinity)
    let far := shelledDisc Binary32.infinity (some 0.3)
    (∀ tree ∈ [plain, wide, far], tree.Faithful) ∧ decode? plain.encode = some plain ∧
      decode? wide.encode = some (shelledDisc (-0.0) none) ∧
      decode? far.encode = (none : Option (Node Float32)) := by
  intro plain wide far
  have hfaithful : ∀ tree ∈ [plain, wide, far], tree.Faithful := by decide +kernel
  have hplain := (decode?_encode (hfaithful plain (by simp))).2 (by decide +kernel)
  have hwide := (decode?_encode (hfaithful wide (by simp))).1
  have hfar := (decode?_encode (hfaithful far (by simp))).1
  have hstorable : wide.isStorable = true ∧ far.isStorable = false := by decide +kernel
  rw [hstorable.1] at hwide
  rw [hstorable.2] at hfar
  exact ⟨hfaithful, hplain, hwide, hfar⟩

end Node

end DistanceField
