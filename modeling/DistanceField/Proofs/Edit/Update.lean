import Mathlib
import DistanceField.Proofs.Flat.Lookup
import DistanceField.Proofs.Node.Outline

/-!
# Changing one node

An update looks for a node and changes it in its hole. Whether it is found depends only on the
identifiers before the hole, and these stay when the node is changed.

Where identifiers occur once, the search can be left out: `Node.changeAt` goes through the whole
tree and changes whatever has the identifier. On this description changes of different nodes can be
exchanged, whether or not one of them is below the other.
-/

namespace DistanceField.Node

variable {α : Type}

/-! ### The first node with an identifier -/

lemma map_id_passed (way : List (Level α)) (m n : Node α) :
    (passed way m).map id = (passed way n).map id := by
  have hbare : ∀ k : Node α, (passed way k).map id = (outlineBefore way).map id := by
    intro k
    rw [← map_bare_passed way k, List.map_map]
    exact List.map_congr_left fun l _ => (id_mapChildren _ l).symm
  rw [hbare m, hbare n]

/-- No node before a hole has the identifier of the node in it. -/
def FirstIn (way : List (Level α)) (n : Node α) : Prop := n.id ∉ (passed way n).map id

lemma firstIn_cons {level : Level α} {way : List (Level α)} {n : Node α} :
    FirstIn (level :: way) n ↔
      level.info.id ≠ n.id ∧ n.id ∉ level.before.flatMap ids ∧ FirstIn way n := by
  have hids : (passed (level :: way) n).map id
      = level.info.id :: (level.before.flatMap ids ++ (passed way n).map id) := by
    rw [passed, List.cons_append, List.map_cons, List.map_append, List.map_flatMap]
    rfl
  rw [FirstIn, hids, List.mem_cons, List.mem_append, not_or, not_or, ne_comm]
  rfl

lemma FirstIn.congr {way : List (Level α)} {m n : Node α} (h : FirstIn way n)
    (hid : m.id = n.id) : FirstIn way m := by
  rw [FirstIn, hid, map_id_passed way m n]
  exact h

lemma FirstIn.beq_eq_false {way : List (Level α)} {n : Node α} (h : FirstIn way n) :
    ∀ m ∈ passed way n, (m.id == n.id) = false := by
  intro m hm
  apply beq_false_of_ne
  intro heq
  exact h (heq ▸ List.mem_map_of_mem hm)

lemma FirstIn.find?_plug {way : List (Level α)} {n : Node α} (h : FirstIn way n) :
    (plug way n).find? n.id = some n := by
  have hnone : (passed way n).find? (·.id == n.id) = none := by
    simpa using h.beq_eq_false
  rw [find?, findFirst?_eq, preorder_plug, preorder_eq n]
  simp [hnone]

lemma FirstIn.update?_plug {way : List (Level α)} {n : Node α} (h : FirstIn way n)
    (f : Node α → Node α) : (plug way n).update? n.id f = some (plug way (f n)) :=
  replaceFirst?_plug (beq_self_eq_true _) h.beq_eq_false

lemma exists_firstIn_of_find? {tree n : Node α} {id : String} (h : tree.find? id = some n) :
    ∃ way, tree = plug way n ∧ n.id = id ∧ FirstIn way n := by
  obtain ⟨-, hid⟩ := mem_preorder_of_findFirst? h
  obtain ⟨way, htree, hpassed⟩ := exists_way_of_findFirst? h
  rw [beq_iff_eq] at hid
  refine ⟨way, htree, hid, fun hmem => ?_⟩
  obtain ⟨m, hm, heq⟩ := List.mem_map.mp hmem
  have hne := hpassed m hm
  simp [heq, hid] at hne

lemma firstIn_of_nodup {way : List (Level α)} {n : Node α} (h : (plug way n).ids.Nodup) :
    FirstIn way n := by
  rw [ids_plug way n n, List.append_assoc] at h
  have hdisjoint := (List.nodup_append'.mp h).2.2
  exact fun hmem => hdisjoint hmem (List.mem_append_left _ n.id_mem_ids)

lemma update?_eq_none_iff {tree : Node α} {id : String} {f : Node α → Node α} :
    tree.update? id f = none ↔ id ∉ tree.ids := by
  rw [← find?_eq_none_iff]
  cases hfind : tree.find? id with
  | none => exact iff_of_true (replaceFirst?_eq_none_of hfind) rfl
  | some n =>
    obtain ⟨way, rfl, rfl, hfirst⟩ := exists_firstIn_of_find? hfind
    simp [hfirst.update?_plug f]

/-! ### Changing without a search -/

/-- Change a node if it has an identifier. -/
def changeIf (id : String) (f : Node α → Node α) (n : Node α) : Node α :=
  if n.id = id then f n else n

mutual

/-- The tree with every node changed that has an identifier, the nodes below it first. -/
def changeAt (id : String) (f : Node α → Node α) : Node α → Node α
  | .primitive info body => changeIf id f (.primitive info body)
  | .operation info op children => changeIf id f (.operation info op (changeAtList id f children))

/-- The list of trees with every node changed that has an identifier. -/
def changeAtList (id : String) (f : Node α → Node α) : List (Node α) → List (Node α)
  | [] => []
  | n :: rest => n.changeAt id f :: changeAtList id f rest

end

lemma changeAtList_eq (id : String) (f : Node α → Node α) (ns : List (Node α)) :
    changeAtList id f ns = ns.map (changeAt id f) := by
  induction ns with
  | nil => rfl
  | cons n rest ih => simp [changeAtList, ih]

lemma changeAt_eq (id : String) (f : Node α → Node α) (n : Node α) :
    n.changeAt id f = changeIf id f (n.mapChildren (List.map (changeAt id f))) := by
  cases n with
  | primitive info body => rfl
  | operation info op children =>
    rw [changeAt, changeAtList_eq]
    rfl

lemma changeAt_of_notMem {n : Node α} {id : String} {f : Node α → Node α} (h : id ∉ n.ids) :
    n.changeAt id f = n := by
  induction n with
  | primitive info body =>
    have hid : info.id ≠ id := by
      rintro rfl
      exact h (id_mem_ids _)
    simp [changeAt, changeIf, hid]
  | operation info op children ih =>
    rw [ids_eq, List.mem_cons, not_or, List.mem_flatMap] at h
    obtain ⟨hid, hchildren⟩ := h
    have hmap : children.map (changeAt id f) = children := by
      refine (List.map_congr_left fun c hc => ih c hc fun hmem => ?_).trans (List.map_id' children)
      exact hchildren ⟨c, hc, hmem⟩
    have hne : info.id ≠ id := fun heq => hid heq.symm
    simp [changeAt, changeAtList_eq, changeIf, hmap, hne]

lemma map_changeAt_of_notMem {ns : List (Node α)} {id : String} {f : Node α → Node α}
    (h : id ∉ ns.flatMap ids) : ns.map (changeAt id f) = ns := by
  refine (List.map_congr_left fun c hc => changeAt_of_notMem fun hmem => ?_).trans
    (List.map_id' ns)
  exact h (List.mem_flatMap.mpr ⟨c, hc, hmem⟩)

/-- Where the identifier of the root does not occur below it, only the root is changed. -/
lemma changeAt_self {n : Node α} (h : n.ids.Nodup) (f : Node α → Node α) :
    n.changeAt n.id f = f n := by
  rw [ids_eq, List.nodup_cons] at h
  have hmap := map_changeAt_of_notMem (f := f) h.1
  cases n with
  | primitive info body => simp [changeAt, changeIf]
  | operation info op children =>
    rw [children_operation, id_operation] at hmap
    simp [changeAt, changeAtList_eq, changeIf, hmap]

lemma changeAt_plug {way : List (Level α)} {id : String} (h : id ∉ way.flatMap Level.ids)
    (f : Node α → Node α) (n : Node α) :
    (plug way n).changeAt id f = plug way (n.changeAt id f) := by
  induction way with
  | nil => rfl
  | cons level way ih =>
    rw [List.flatMap_cons, List.mem_append, not_or, Level.ids, List.flatMap_append, List.mem_cons,
      List.mem_append, not_or, not_or] at h
    obtain ⟨⟨hid, hbefore, hafter⟩, hway⟩ := h
    have hne : level.info.id ≠ id := fun heq => hid heq.symm
    simp [plug_cons, Level.fill, changeAt, changeAtList_eq, changeIf, hne,
      map_changeAt_of_notMem hbefore, map_changeAt_of_notMem hafter, ih hway]

/-- Where identifiers occur once, changing what has an identifier changes the node in its hole. -/
lemma changeAt_plug_self {way : List (Level α)} {n : Node α} (h : (plug way n).ids.Nodup)
    (f : Node α → Node α) : (plug way n).changeAt n.id f = plug way (f n) := by
  rw [(ids_plug_perm way n).nodup_iff, List.nodup_append'] at h
  obtain ⟨-, hn, hdisjoint⟩ := h
  rw [changeAt_plug (fun hmem => hdisjoint hmem n.id_mem_ids), changeAt_self hn]

/-! ### Exchanging changes -/

/-- A change that keeps the identifier and does not look into the children. -/
structure Local (f : Node α → Node α) : Prop where
  id_eq : ∀ n, (f n).id = n.id
  mapChildren_eq : ∀ g n, f (n.mapChildren (List.map g)) = (f n).mapChildren (List.map g)

lemma Local.changeIf {f : Node α → Node α} (h : Local f) (id : String) :
    Local (changeIf id f) where
  id_eq n := by
    rw [Node.changeIf]
    split_ifs
    · exact h.id_eq n
    · rfl
  mapChildren_eq g n := by
    rw [Node.changeIf, Node.changeIf, id_mapChildren]
    split_ifs
    · exact h.mapChildren_eq g n
    · rfl

lemma changeIf_comm {a b : String} (hne : a ≠ b) {f g : Node α → Node α} (hf : Local f)
    (hg : Local g) (n : Node α) :
    changeIf b g (changeIf a f n) = changeIf a f (changeIf b g n) := by
  by_cases ha : n.id = a
  · simp [changeIf, ha, hf.id_eq, hne]
  · simp [changeIf, ha, hg.id_eq, apply_ite Node.id]

/-- Two changes of a tree are two changes of its root, after both have been made below it. -/
lemma changeAt_changeAt {a b : String} {f g : Node α → Node α} (hf : Local f) (n : Node α) :
    (n.changeAt a f).changeAt b g = changeIf b g (changeIf a f
      (n.mapChildren (List.map fun m => (m.changeAt a f).changeAt b g))) := by
  rw [changeAt_eq b, changeAt_eq a, ← (hf.changeIf a).mapChildren_eq]
  cases n with
  | primitive info body => rfl
  | operation info op children => simp [mapChildren, Function.comp_def]

/-- Changes at different identifiers can be made in either order, whatever the tree. -/
lemma changeAt_comm {a b : String} (hne : a ≠ b) {f g : Node α → Node α} (hf : Local f)
    (hg : Local g) (n : Node α) :
    (n.changeAt a f).changeAt b g = (n.changeAt b g).changeAt a f := by
  induction n using induction_on_children with
  | step n ih =>
    have hchildren : n.mapChildren (List.map fun m => (m.changeAt a f).changeAt b g)
        = n.mapChildren (List.map fun m => (m.changeAt b g).changeAt a f) := by
      cases n with
      | primitive info body => rfl
      | operation info op children => simpa [mapChildren] using ih
    rw [changeAt_changeAt hf, changeAt_changeAt hg, hchildren, changeIf_comm hne hf hg]

end DistanceField.Node
