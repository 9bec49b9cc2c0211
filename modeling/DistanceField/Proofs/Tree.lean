import Mathlib
import DistanceField.Field
import DistanceField.Shader.Emit

/-!
# Induction on trees

`Node` is nested through `List`, so every function on trees comes with a twin on lists of trees.
Here the twins are reduced to list operations, and `induction` on a tree is given one case for a
shape and one for an operation, with a hypothesis for every child.
-/

namespace DistanceField

variable {α : Type}

namespace Node

/-- Induction with a hypothesis for every child of an operation. -/
@[elab_as_elim, induction_eliminator]
theorem children_induction {motive : Node α → Prop}
    (primitive : ∀ info body, motive (.primitive info body))
    (operation : ∀ info op children, (∀ c ∈ children, motive c) →
      motive (.operation info op children)) : ∀ n, motive n
  | .primitive info body => primitive info body
  | .operation info op children =>
    operation info op children fun c _ => children_induction primitive operation c

/-- Induction from the children of a node to the node, for shapes and operations alike. -/
theorem induction_on_children {motive : Node α → Prop} (n : Node α)
    (step : ∀ n, (∀ c ∈ n.children, motive c) → motive n) : motive n := by
  induction n with
  | primitive info body => exact step _ fun _ hc => absurd hc List.not_mem_nil
  | operation info op children ih => exact step _ ih

/-! ### Functions on lists of trees -/

lemma preorderList_eq (ns : List (Node α)) : preorderList ns = ns.flatMap preorder := by
  induction ns with
  | nil => rfl
  | cons n rest ih => rw [preorderList, ih, List.flatMap_cons]

lemma preorder_eq (n : Node α) : n.preorder = n :: n.children.flatMap preorder := by
  cases n with
  | primitive info body => rfl
  | operation info op children => rw [preorder, preorderList_eq]; rfl

lemma evalList_eq [Scalar α] (p : Vec2 α) (ns : List (Node α)) :
    evalList p ns = ns.map (eval p) := by
  induction ns with
  | nil => rfl
  | cons n rest ih => rw [evalList, ih, List.map_cons]

@[simp] lemma id_primitive (info : Info) (body : Primitive α) :
    (Node.primitive info body).id = info.id := rfl

@[simp] lemma id_operation (info : Info) (op : Operator α) (cs : List (Node α)) :
    (Node.operation info op cs).id = info.id := rfl

/-! ### Nodes of a tree -/

lemma self_mem_preorder (n : Node α) : n ∈ n.preorder := by
  rw [preorder_eq]
  exact List.mem_cons_self

lemma mem_preorder_of_mem_children {n c m : Node α} (hc : c ∈ n.children) (hm : m ∈ c.preorder) :
    m ∈ n.preorder := by
  rw [preorder_eq]
  exact List.mem_cons_of_mem _ (List.mem_flatMap.mpr ⟨c, hc, hm⟩)

lemma preorder_sublist {tree n : Node α} (h : n ∈ tree.preorder) :
    n.preorder.Sublist tree.preorder := by
  induction tree with
  | primitive info body =>
    obtain rfl : n = .primitive info body := List.mem_singleton.mp h
    exact List.Sublist.refl _
  | operation info op children ih =>
    rw [preorder_eq, List.mem_cons, List.mem_flatMap] at h
    obtain rfl | ⟨c, hc, hn⟩ := h
    · exact List.Sublist.refl _
    · rw [preorder_eq (.operation info op children)]
      have hchild : c.preorder.Sublist (children.flatMap preorder) :=
        List.sublist_flatten_of_mem (List.mem_map_of_mem hc)
      exact ((ih c hc hn).trans hchild).trans (List.sublist_cons_self _ _)

lemma exists_parent {tree n : Node α} (h : n ∈ tree.preorder) (hne : n ≠ tree) :
    ∃ parent ∈ tree.preorder, n ∈ parent.children := by
  induction tree with
  | primitive info body => exact absurd (List.mem_singleton.mp h) hne
  | operation info op children ih =>
    rw [preorder_eq, List.mem_cons, List.mem_flatMap] at h
    obtain rfl | ⟨c, hc, hn⟩ := h
    · exact absurd rfl hne
    · by_cases hnc : n = c
      · exact ⟨_, self_mem_preorder _, hnc ▸ hc⟩
      · obtain ⟨parent, hparent, hchild⟩ := ih c hc hn hnc
        exact ⟨parent, mem_preorder_of_mem_children hc hparent, hchild⟩

/-- What holds of the nodes of an operation holds of the operation and in the trees below. -/
lemma forall_mem_preorder_operation {P : Node α → Prop} {info : Info} {op : Operator α}
    {children : List (Node α)} :
    (∀ n ∈ (operation info op children).preorder, P n) ↔
      P (operation info op children) ∧ ∀ c ∈ children, ∀ n ∈ c.preorder, P n := by
  rw [preorder_eq, List.forall_mem_cons, children_operation]
  simp only [List.mem_flatMap, forall_exists_index, and_imp]
  exact and_congr_right fun _ => ⟨fun h c hc n hn => h n c hc hn, fun h n c hc hn => h c hc n hn⟩

/-- The identifiers of all nodes, in preorder. -/
def ids (n : Node α) : List String := n.preorder.map id

lemma ids_eq (n : Node α) : n.ids = n.id :: n.children.flatMap ids := by
  rw [ids, preorder_eq, List.map_cons, List.map_flatMap]
  rfl

lemma id_mem_ids (n : Node α) : n.id ∈ n.ids :=
  List.mem_map_of_mem n.self_mem_preorder

lemma ids_sublist {tree n : Node α} (h : n ∈ tree.preorder) : n.ids.Sublist tree.ids :=
  (preorder_sublist h).map id

/-- Where identifiers occur once, a node is known by its identifier. -/
lemma eq_of_id_eq {tree a b : Node α} (h : tree.ids.Nodup) (ha : a ∈ tree.preorder)
    (hb : b ∈ tree.preorder) (hid : a.id = b.id) : a = b :=
  List.inj_on_of_nodup_map h ha hb hid

/-- The identifiers of all nodes as they stand in the names of variables. -/
def sanitizedIds (n : Node α) : List String := n.ids.map Shader.sanitize

lemma sanitizedIds_eq (n : Node α) :
    n.sanitizedIds = Shader.sanitize n.id :: n.children.flatMap sanitizedIds := by
  rw [sanitizedIds, ids_eq, List.map_cons, List.map_flatMap]
  rfl

/-- Where sanitized identifiers occur once, a node is known by its own. -/
lemma eq_of_sanitize_eq {tree a b : Node α} (h : tree.sanitizedIds.Nodup) (ha : a ∈ tree.preorder)
    (hb : b ∈ tree.preorder) (hid : Shader.sanitize a.id = Shader.sanitize b.id) : a = b := by
  rw [sanitizedIds, ids, List.map_map] at h
  exact List.inj_on_of_nodup_map h ha hb hid

/-! ### Points of a tree -/

section

variable [Scalar α]

mutual

/-- The nodes of a tree with the points that they are sampled at. -/
def samples (p : Vec2 α) : Node α → List (Node α × Vec2 α)
  | .primitive info body => [(.primitive info body, p)]
  | .operation info op children =>
    (.operation info op children, p) :: samplesList (op.plan.point p) children

/-- The nodes of a list of trees with the points that they are sampled at. -/
def samplesList (p : Vec2 α) : List (Node α) → List (Node α × Vec2 α)
  | [] => []
  | n :: rest => n.samples p ++ samplesList p rest

end

lemma samplesList_eq (p : Vec2 α) (ns : List (Node α)) :
    samplesList p ns = ns.flatMap (samples p) := by
  induction ns with
  | nil => rfl
  | cons n rest ih => rw [samplesList, ih, List.flatMap_cons]

lemma mem_samples_of_child {info : Info} {op : Operator α} {cs : List (Node α)} {p : Vec2 α}
    {c : Node α} {s : Node α × Vec2 α} (hc : c ∈ cs) (hs : s ∈ c.samples (op.plan.point p)) :
    s ∈ (Node.operation info op cs).samples p := by
  rw [samples, samplesList_eq]
  exact List.mem_cons_of_mem _ (List.mem_flatMap.mpr ⟨c, hc, hs⟩)

end

end Node

end DistanceField
