import Mathlib
import DistanceField.Proofs.Edit.Removal
import DistanceField.Proofs.Edit.Update

/-!
# What an update leaves alone

An update of a node's own fields rebuilds the nodes above it, but of these it changes only what is
below them, and all other nodes stay as they are. Where identifiers occur once this is read off
`Node.changeAt`: it keeps every identifier where it is, so a search in the changed tree finds what
becomes of the node that it finds in the old one.
-/

namespace DistanceField.Node

variable {α : Type}

/-! ### Changes of own fields -/

lemma eq_of_bare_of_children {m n : Node α} (hbare : m.bare = n.bare)
    (hchildren : m.children = n.children) : m = n := by
  cases n with
  | primitive info body => exact eq_of_bare_eq hbare rfl
  | operation info op children =>
    cases m with
    | primitive info' body' => cases hbare
    | operation info' op' children' =>
      obtain ⟨rfl, rfl, -⟩ := Node.operation.inj hbare
      obtain rfl : children' = children := hchildren
      rfl

/-- A change of a node's own fields. It keeps the identifier and the children, and what becomes of
the other fields does not depend on the children. -/
structure Shallow (f : Node α → Node α) : Prop where
  id_eq : ∀ n, (f n).id = n.id
  children_eq : ∀ n, (f n).children = n.children
  bare_eq : ∀ m n, m.bare = n.bare → (f m).bare = (f n).bare

namespace Shallow

variable {f g : Node α → Node α}

lemma mapInfo {k : Info → Info} (h : ∀ info, (k info).id = info.id) :
    Shallow (Node.mapInfo (α := α) k) where
  id_eq n := by cases n <;> exact h _
  children_eq n := by cases n <;> rfl
  bare_eq m n hbare := by
    have hcomm : ∀ l : Node α, (l.mapInfo k).bare = l.bare.mapInfo k := fun l => by cases l <;> rfl
    rw [hcomm, hcomm, hbare]

lemma mapOperator (k : Operator α → Operator α) : Shallow (Node.mapOperator k) where
  id_eq n := by cases n <;> rfl
  children_eq n := by cases n <;> rfl
  bare_eq m n hbare := by
    have hcomm : ∀ l : Node α, (l.mapOperator k).bare = l.bare.mapOperator k :=
      fun l => by cases l <;> rfl
    rw [hcomm, hcomm, hbare]

lemma isLocal (h : Shallow f) : Local f where
  id_eq := h.id_eq
  mapChildren_eq k n := by
    have hmap : ∀ l : Node α, (l.mapChildren (List.map k)).children = l.children.map k :=
      fun l => by cases l <;> rfl
    apply eq_of_bare_of_children
    · rw [bare_mapChildren]
      exact h.bare_eq _ _ (bare_mapChildren _ n)
    · rw [h.children_eq, hmap, hmap, h.children_eq]

/-! ### Searching a changed tree -/

lemma id_changeAt (h : Shallow f) (id : String) (n : Node α) : (n.changeAt id f).id = n.id := by
  rw [changeAt_eq, (h.isLocal.changeIf id).id_eq, id_mapChildren]

lemma children_changeAt (h : Shallow f) (id : String) (n : Node α) :
    (n.changeAt id f).children = n.children.map (changeAt id f) := by
  have hchildren : ∀ m, (Node.changeIf id f m).children = m.children := by
    intro m
    rw [Node.changeIf]
    split_ifs
    · exact h.children_eq m
    · rfl
  rw [changeAt_eq, hchildren]
  cases n <;> rfl

/-- The nodes of a changed tree are what becomes of the nodes of the old one. -/
lemma preorder_changeAt (h : Shallow f) (id : String) (n : Node α) :
    (n.changeAt id f).preorder = n.preorder.map (changeAt id f) := by
  induction n using induction_on_children with
  | step n ih =>
    rw [preorder_eq, preorder_eq n, h.children_changeAt, List.map_cons, List.map_flatMap,
      List.flatMap_map]
    exact congrArg _ (List.flatMap_congr ih)

lemma ids_changeAt (h : Shallow f) (id : String) (n : Node α) : (n.changeAt id f).ids = n.ids := by
  rw [ids, h.preorder_changeAt, List.map_map]
  exact List.map_congr_left fun m _ => h.id_changeAt id m

lemma find?_changeAt (h : Shallow f) (a b : String) (tree : Node α) :
    (tree.changeAt a f).find? b = (tree.find? b).map (changeAt a f) := by
  rw [find?, find?, findFirst?_eq, findFirst?_eq, h.preorder_changeAt, List.find?_map]
  simp only [Function.comp_def, h.id_changeAt]

/-- Two changes at one identifier are one change. -/
lemma changeAt_changeAt_self (h : Shallow f) (id : String) (n : Node α) :
    (n.changeAt id f).changeAt id g = n.changeAt id (g ∘ f) := by
  induction n using induction_on_children with
  | step n ih =>
    have hchildren : n.mapChildren (List.map fun m => (m.changeAt id f).changeAt id g)
        = n.mapChildren (List.map (changeAt id (g ∘ f))) := by
      cases n with
      | primitive info body => rfl
      | operation info op children => simpa [Node.mapChildren] using ih
    rw [changeAt_changeAt h.isLocal, hchildren, changeAt_eq id (g ∘ f)]
    by_cases hid : (n.mapChildren (List.map (changeAt id (g ∘ f)))).id = id
    · simp [Node.changeIf, hid, h.id_eq]
    · simp [Node.changeIf, hid]

end Shallow

/-! ### Updates -/

/-- The tree after an update; where the identifier is missing it stays as it is. -/
def update (tree : Node α) (id : String) (f : Node α → Node α) : Node α :=
  (tree.update? id f).getD tree

/-- Some node with the first identifier has a node with the second one below it. -/
def IsAbove (tree : Node α) (upper lower : String) : Prop :=
  ∃ m ∈ tree.preorder, m.id = upper ∧ lower ∈ m.children.flatMap ids

instance (tree : Node α) (upper lower : String) : Decidable (tree.IsAbove upper lower) :=
  inferInstanceAs (Decidable (∃ m ∈ tree.preorder, m.id = upper ∧
    lower ∈ m.children.flatMap ids))

/-- Where identifiers occur once, an update is a change of whatever has the identifier. -/
lemma update_eq_changeAt {tree : Node α} (h : tree.ids.Nodup) (id : String)
    (f : Node α → Node α) : tree.update id f = tree.changeAt id f := by
  cases hfind : tree.find? id with
  | none =>
    have hid := find?_eq_none_iff.mp hfind
    rw [update, update?_eq_none_iff.mpr hid, changeAt_of_notMem hid]
    rfl
  | some n =>
    obtain ⟨way, rfl, rfl, hfirst⟩ := exists_firstIn_of_find? hfind
    rw [update, hfirst.update?_plug, changeAt_plug_self h]
    rfl

section Distinct

variable {tree : Node α} (h : tree.ids.Nodup) {f g : Node α → Node α} (hf : Shallow f)

include h hf

lemma find?_update (a b : String) :
    (tree.update a f).find? b = (tree.find? b).map (changeAt a f) := by
  rw [update_eq_changeAt h, hf.find?_changeAt]

lemma nodup_ids_update (id : String) : (tree.update id f).ids.Nodup := by
  rw [update_eq_changeAt h, hf.ids_changeAt]
  exact h

lemma find?_update_self {a : String} (ha : a ∈ tree.ids) :
    ∃ n, tree.find? a = some n ∧ (tree.update a f).find? a = some (f n) := by
  cases hfind : tree.find? a with
  | none => exact absurd ha (find?_eq_none_iff.mp hfind)
  | some n =>
    obtain ⟨hn, rfl⟩ := (find?_eq_some_iff h).mp hfind
    refine ⟨n, rfl, ?_⟩
    rw [find?_update h hf, hfind, Option.map_some, changeAt_self ((ids_sublist hn).nodup h)]

/-- What is neither the updated node nor above it stays as it is. -/
lemma find?_update_of_not_isAbove {a b : String} (hne : b ≠ a) (hab : ¬ tree.IsAbove b a) :
    (tree.update a f).find? b = tree.find? b := by
  rw [find?_update h hf]
  cases hfind : tree.find? b with
  | none => rfl
  | some m =>
    obtain ⟨hm, rfl⟩ := (find?_eq_some_iff h).mp hfind
    have hmem : a ∉ m.ids := by
      rw [ids_eq, List.mem_cons]
      rintro (rfl | hbelow)
      · exact hne rfl
      · exact hab ⟨m, hm, rfl, hbelow⟩
    rw [Option.map_some, changeAt_of_notMem hmem]

/-- What is above the updated node keeps its own fields and the identifiers of its children. -/
lemma find?_update_of_isAbove {a b : String} (hab : tree.IsAbove b a) :
    ∃ m m', tree.find? b = some m ∧ (tree.update a f).find? b = some m' ∧
      m'.bare = m.bare ∧ m'.children.map id = m.children.map id := by
  obtain ⟨m, hm, rfl, hbelow⟩ := hab
  have hids := (ids_sublist hm).nodup h
  rw [ids_eq, List.nodup_cons] at hids
  have hne : m.id ≠ a := by
    rintro rfl
    exact hids.1 hbelow
  have hfind := (find?_eq_some_iff h).mpr ⟨hm, rfl⟩
  refine ⟨m, m.changeAt a f, hfind, ?_, ?_, ?_⟩
  · rw [find?_update h hf, hfind, Option.map_some]
  · rw [changeAt_eq, changeIf, id_mapChildren, if_neg hne, bare_mapChildren]
  · rw [hf.children_changeAt, List.map_map]
    exact List.map_congr_left fun c _ => hf.id_changeAt a c

lemma update_update (id : String) :
    (tree.update id f).update id g = tree.update id (g ∘ f) := by
  rw [update_eq_changeAt (nodup_ids_update h hf id), update_eq_changeAt h, update_eq_changeAt h,
    hf.changeAt_changeAt_self]

lemma update_comm (hg : Shallow g) {a b : String} (hne : a ≠ b) :
    (tree.update a f).update b g = (tree.update b g).update a f := by
  rw [update_eq_changeAt (nodup_ids_update h hf a), update_eq_changeAt (nodup_ids_update h hg b),
    update_eq_changeAt h, update_eq_changeAt h]
  exact changeAt_comm hne hf.isLocal hg.isLocal tree

end Distinct

/-- Where identifiers occur once, an update of a node's own fields changes that node and nothing
else: other nodes are found as they were, but for what is below them. Two updates of one node are
one update, and updates of different nodes can be made in either order. -/
theorem update_frame_laws {tree : Node α} (h : tree.ids.Nodup) {f g : Node α → Node α}
    (hf : Shallow f) (hg : Shallow g) :
    (∀ a ∈ tree.ids, ∃ n, tree.find? a = some n ∧ (tree.update a f).find? a = some (f n)) ∧
    (∀ a b, b ≠ a → ¬ tree.IsAbove b a → (tree.update a f).find? b = tree.find? b) ∧
    (∀ a b, tree.IsAbove b a → ∃ m m', tree.find? b = some m ∧
      (tree.update a f).find? b = some m' ∧ m'.bare = m.bare ∧
      m'.children.map Node.id = m.children.map Node.id) ∧
    (∀ a, (tree.update a f).update a g = tree.update a (g ∘ f)) ∧
    ∀ a b, a ≠ b → (tree.update a f).update b g = (tree.update b g).update a f :=
  ⟨fun _ ha => find?_update_self h hf ha,
    fun _ _ hne hab => find?_update_of_not_isAbove h hf hne hab,
    fun _ _ hab => find?_update_of_isAbove h hf hab,
    fun a => update_update h hf a,
    fun _ _ hne => update_comm h hf hg hne⟩

/-- A disc is hidden and the group above it is blended, in either order. Its sibling does not
change, and the group still lists both of them. -/
theorem update_frame_groupedDiscs :
    groupedDiscs.ids.Nodup ∧
    Shallow (withVisible (α := Float32) · false) ∧ Shallow (withBlend (α := Float32) · 0.5) ∧
    (groupedDiscs.update "b" (·.withVisible false)).find? "a" = groupedDiscs.find? "a" ∧
    (∃ m m', groupedDiscs.find? "g" = some m ∧
      (groupedDiscs.update "b" (·.withVisible false)).find? "g" = some m' ∧ m'.bare = m.bare ∧
      m'.children.map Node.id = m.children.map Node.id) ∧
    (groupedDiscs.update "b" (·.withVisible false)).update "g" (·.withBlend 0.5)
      = (groupedDiscs.update "g" (·.withBlend 0.5)).update "b" (·.withVisible false) := by
  have hids : groupedDiscs.ids.Nodup := by decide
  have hhidden : Shallow (withVisible (α := Float32) · false) := .mapInfo fun _ => rfl
  have hblended : Shallow (withBlend (α := Float32) · 0.5) := .mapOperator _
  obtain ⟨-, hother, habove, -, hcomm⟩ := update_frame_laws hids hhidden hblended
  exact ⟨hids, hhidden, hblended, hother "b" "a" (by decide) (by decide),
    habove "b" "g" (by decide), hcomm "b" "g" (by decide)⟩

end DistanceField.Node
