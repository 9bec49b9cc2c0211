import Mathlib
import DistanceField.Edit.Session
import DistanceField.Number.Binary32
import DistanceField.Proofs.Flat.Lookup
import DistanceField.Proofs.Node.Outline

/-!
# Removing a node

A removal looks for a node that has a child with the identifier and takes that child out of the list
of its children. Where no other node has the identifier this closes the hole that the child stands
in, and the rest of the tree is as it was.

That two removals can be exchanged is seen on another description of the same result, `Node.prune`,
which goes through the whole tree and does not look for a place first.
-/

namespace DistanceField.Node

variable {α : Type}

/-! ### Closing the hole of a node -/

lemma notMem_ids_fill {level : Level α} {n : Node α} {id : String} :
    id ∉ (level.fill n).ids ↔ id ≠ level.info.id ∧ id ∉ level.before.flatMap ids ∧ id ∉ n.ids ∧
      id ∉ level.after.flatMap ids := by
  rw [ids_fill]
  simp only [List.mem_cons, List.mem_append, not_or]

lemma notMem_ids_close {level : Level α} {id : String} :
    id ∉ level.close.ids ↔ id ≠ level.info.id ∧ id ∉ level.before.flatMap ids ∧
      id ∉ level.after.flatMap ids := by
  rw [ids_close]
  simp only [List.mem_cons, List.mem_append, not_or]

lemma id_ne_of_notMem {ns : List (Node α)} {id : String} (h : id ∉ ns.flatMap ids) :
    ∀ c ∈ ns, (c.id != id) = true := by
  intro c hc
  refine bne_iff_ne.mpr fun heq => h (List.mem_flatMap.mpr ⟨c, hc, ?_⟩)
  rw [← heq]
  exact c.id_mem_ids

lemma filter_siblings {level : Level α} {n : Node α} (h : n.id ∉ level.close.ids) :
    (level.before ++ n :: level.after).filter (·.id != n.id) = level.before ++ level.after := by
  obtain ⟨-, hbefore, hafter⟩ := notMem_ids_close.mp h
  have hn : ¬ (n.id != n.id) = true := by simp
  rw [List.filter_append, List.filter_cons_of_neg (p := fun m : Node α => m.id != n.id) hn,
    List.filter_eq_self.mpr (id_ne_of_notMem hbefore),
    List.filter_eq_self.mpr (id_ne_of_notMem hafter)]

/-- The identifiers of the children of the nodes before a hole depend on the root of what fills it
only. -/
lemma map_childIds_passed (way : List (Level α)) {m n : Node α} (h : m.id = n.id) :
    (passed way m).map (·.children.map id) = (passed way n).map (·.children.map id) := by
  induction way with
  | nil => rfl
  | cons level way ih =>
    rw [passed, passed, List.map_append, List.map_append, ih, List.map_cons, List.map_cons,
      plug_cons, plug_cons, Level.fill, Level.fill, children_operation, children_operation,
      List.map_append, List.map_append, List.map_cons, List.map_cons, id_plug h]

lemma childIds_subset {tree n : Node α} (h : n ∈ tree.preorder) : n.children.map id ⊆ tree.ids := by
  intro id hid
  obtain ⟨c, hc, rfl⟩ := List.mem_map.mp hid
  exact (ids_sublist h).subset
    (List.mem_map_of_mem (mem_preorder_of_mem_children hc c.self_mem_preorder))

/-- A node is removed from its hole if its identifier does not occur elsewhere. -/
lemma remove?_plug_fill {way : List (Level α)} {level : Level α} {n : Node α}
    (h : n.id ∉ (plug way level.close).ids) :
    (plug way (level.fill n)).remove? n.id = some (plug way level.close) := by
  have hclose : n.id ∉ level.close.ids := fun hmem =>
    h ((ids_sublist (mem_preorder_plug level.close.self_mem_preorder)).subset hmem)
  have hhas : (level.fill n).hasChild n.id = true :=
    hasChild_iff.mpr (List.mem_map_of_mem (List.mem_append_right _ List.mem_cons_self))
  -- the nodes before the hole have the children that they have when the hole is closed
  have hpassed : ∀ m ∈ passed way (level.fill n), m.hasChild n.id = false := by
    intro m hm
    have hids : m.children.map id ∈ (passed way level.close).map (·.children.map id) := by
      rw [map_childIds_passed way (show level.close.id = (level.fill n).id from rfl)]
      exact List.mem_map_of_mem hm
    obtain ⟨k, hk, hkids⟩ := List.mem_map.mp hids
    have hkmem : k ∈ (plug way level.close).preorder := by
      rw [preorder_plug]
      exact List.mem_append_left _ (List.mem_append_left _ hk)
    refine Bool.eq_false_iff.mpr fun hchild => h (childIds_subset hkmem ?_)
    rw [hkids]
    exact hasChild_iff.mp hchild
  rw [remove?, replaceFirst?_plug hhas hpassed, Level.fill, mapChildren, filter_siblings hclose]
  rfl

lemma id_plug_fill_ne {way : List (Level α)} {level : Level α} {n : Node α}
    (h : n.id ∉ (plug way level.close).ids) : (plug way (level.fill n)).id ≠ n.id := by
  intro heq
  have hid : (plug way (level.fill n)).id = (plug way level.close).id := id_plug rfl
  rw [← heq, hid] at h
  exact h (id_mem_ids _)

lemma delete_plug_fill {way : List (Level α)} {level : Level α} {n : Node α}
    (h : n.id ∉ (plug way level.close).ids) :
    (plug way (level.fill n)).delete n.id = .replaced (plug way level.close) := by
  rw [delete, if_neg (id_plug_fill_ne h), remove?_plug_fill h]
  rfl

lemma remove?_of_delete_eq {tree base : Node α} {id : String}
    (h : tree.delete id = .replaced base) : tree.id ≠ id ∧ tree.remove? id = some base := by
  rw [delete] at h
  split_ifs at h with hroot
  refine ⟨hroot, ?_⟩
  cases hremove : tree.remove? id with
  | none =>
    rw [hremove] at h
    cases h
  | some new =>
    rw [hremove] at h
    exact congrArg some (Change.replaced.inj h)

lemma delete_of_notMem {tree : Node α} {id : String} (h : id ∉ tree.ids) :
    tree.delete id = .rejected := by
  have hroot : tree.id ≠ id := fun heq => h (heq ▸ tree.id_mem_ids)
  have hnone : tree.findFirst? (·.hasChild id) = none := by
    refine findFirst?_eq_none.mpr fun n hn => Bool.eq_false_iff.mpr fun hchild => h ?_
    exact childIds_subset hn (hasChild_iff.mp hchild)
  rw [delete, if_neg hroot, remove?, replaceFirst?_eq_none_of hnone]
  rfl

/-- Where identifiers occur once, every node but the root stands in a hole that can be closed. -/
lemma exists_delete_of_find? {tree n : Node α} {id : String} (h : tree.ids.Nodup)
    (hfind : tree.find? id = some n) (hroot : tree.id ≠ id) :
    ∃ (way : List (Level α)) (level : Level α), tree = plug way (level.fill n) ∧
      tree.delete id = .replaced (plug way level.close) := by
  obtain ⟨hn, rfl⟩ := (find?_eq_some_iff h).mp hfind
  have hbelow : n ≠ tree := fun heq => hroot (congrArg Node.id heq).symm
  obtain ⟨way, level, rfl⟩ := exists_plug_fill_of_mem hn hbelow
  exact ⟨way, level, rfl, delete_plug_fill (id_notMem_ids_close h)⟩

/-! ### Pruning -/

mutual

/-- The tree without the nodes below its root that have an identifier. -/
def prune (id : String) : Node α → Node α
  | .primitive info body => .primitive info body
  | .operation info op children => .operation info op (pruneList id children)

/-- The list of trees without the nodes that have an identifier. -/
def pruneList (id : String) : List (Node α) → List (Node α)
  | [] => []
  | n :: rest => if n.id = id then pruneList id rest else n.prune id :: pruneList id rest

end

lemma pruneList_eq (id : String) (ns : List (Node α)) :
    pruneList id ns = (ns.filter (·.id != id)).map (prune id) := by
  induction ns with
  | nil => rfl
  | cons n rest ih =>
    rw [pruneList, ih, List.filter_cons]
    by_cases hn : n.id = id
    · simp [hn]
    · simp [hn]

lemma prune_operation (id : String) (info : Info) (op : Operator α) (children : List (Node α)) :
    (operation info op children).prune id
      = operation info op ((children.filter (·.id != id)).map (prune id)) := by
  rw [prune, pruneList_eq]

lemma id_prune (id : String) (n : Node α) : (n.prune id).id = n.id := by
  cases n <;> rfl

/-- Prunings can be exchanged, whatever the tree. -/
lemma prune_comm (a b : String) (n : Node α) : (n.prune a).prune b = (n.prune b).prune a := by
  induction n with
  | primitive info body => rfl
  | operation info op children ih =>
    have hkeep : ∀ x y : String, (fun m : Node α => m.id != x) ∘ prune y = fun m => m.id != x :=
      fun x y => funext fun m => by rw [Function.comp_apply, id_prune]
    rw [prune_operation, prune_operation, prune_operation, prune_operation, List.filter_map,
      List.filter_map, hkeep, hkeep, List.filter_comm, List.map_map, List.map_map]
    congr 1
    refine List.map_congr_left fun m hm => ih m ?_
    exact List.mem_of_mem_filter (List.mem_of_mem_filter hm)

lemma prune_of_notMem {n : Node α} {id : String} (h : id ∉ n.ids) : n.prune id = n := by
  induction n with
  | primitive info body => rfl
  | operation info op children ih =>
    rw [ids_eq, children_operation, List.mem_cons, not_or] at h
    rw [prune_operation, List.filter_eq_self.mpr (id_ne_of_notMem h.2)]
    congr 1
    refine (List.map_congr_left fun c hc => ih c hc fun hmem => ?_).trans (List.map_id' children)
    exact h.2 (List.mem_flatMap.mpr ⟨c, hc, hmem⟩)

lemma map_prune_of_notMem {ns : List (Node α)} {id : String} (h : id ∉ ns.flatMap ids) :
    ns.map (prune id) = ns := by
  refine (List.map_congr_left fun c hc => prune_of_notMem fun hmem => ?_).trans (List.map_id' ns)
  exact h (List.mem_flatMap.mpr ⟨c, hc, hmem⟩)

/-- Pruning goes on below a level that does not have the identifier. -/
lemma prune_fill {level : Level α} {n : Node α} {id : String} (hn : n.id ≠ id)
    (hbefore : id ∉ level.before.flatMap ids) (hafter : id ∉ level.after.flatMap ids) :
    (level.fill n).prune id = level.fill (n.prune id) := by
  have hkeep : (n.id != id) = true := bne_iff_ne.mpr hn
  rw [Level.fill, prune_operation, List.filter_append,
    List.filter_cons_of_pos (p := fun m : Node α => m.id != id) hkeep,
    List.filter_eq_self.mpr (id_ne_of_notMem hbefore),
    List.filter_eq_self.mpr (id_ne_of_notMem hafter), List.map_append, List.map_cons,
    map_prune_of_notMem hbefore, map_prune_of_notMem hafter, Level.fill]

/-- Pruning closes the hole of the one node with the identifier. -/
lemma prune_plug_fill {way : List (Level α)} {level : Level α} {n : Node α}
    (h : n.id ∉ (plug way level.close).ids) :
    (plug way (level.fill n)).prune n.id = plug way level.close := by
  induction way with
  | nil =>
    change (level.fill n).prune n.id = level.close
    change n.id ∉ level.close.ids at h
    rw [Level.fill, prune_operation, filter_siblings h, Level.close, map_prune_of_notMem]
    rw [List.flatMap_append, List.mem_append, not_or]
    exact (notMem_ids_close.mp h).2
  | cons first way ih =>
    rw [plug_cons] at h
    obtain ⟨-, hbefore, hway, hafter⟩ := notMem_ids_fill.mp h
    rw [plug_cons, plug_cons, prune_fill (id_plug_fill_ne hway) hbefore hafter, ih hway]

/-! ### Removing from a scene -/

/-- The scene after the removal of an identifier. Nothing is left once the root is removed. -/
def deleteFrom (id : String) (scene : Option (Node α)) : Option (Node α) :=
  scene.bind fun tree => (tree.delete id).apply (some tree)

lemma deleteFrom_root (tree : Node α) : deleteFrom tree.id (some tree) = none := by
  rw [deleteFrom, Option.bind_some, delete, if_pos rfl]
  rfl

/-- Where identifiers occur once, a removal below the root prunes the tree. -/
lemma deleteFrom_some {tree : Node α} {id : String} (h : tree.ids.Nodup) (hroot : tree.id ≠ id) :
    deleteFrom id (some tree) = some (tree.prune id) ∧ (tree.prune id).ids.Nodup := by
  rw [deleteFrom, Option.bind_some]
  cases hfind : tree.find? id with
  | none =>
    have hid := find?_eq_none_iff.mp hfind
    rw [delete_of_notMem hid, prune_of_notMem hid]
    exact ⟨rfl, h⟩
  | some n =>
    obtain ⟨way, level, rfl, hdelete⟩ := exists_delete_of_find? h hfind hroot
    obtain ⟨-, rfl⟩ := (find?_eq_some_iff h).mp hfind
    rw [hdelete, prune_plug_fill (id_notMem_ids_close h)]
    exact ⟨rfl, (nodup_ids_plug_fill.mp h).1⟩

lemma deleteFrom_deleteFrom {tree : Node α} (h : tree.ids.Nodup) (a b : String) :
    deleteFrom b (deleteFrom a (some tree))
      = if tree.id = a ∨ tree.id = b then none else some ((tree.prune a).prune b) := by
  by_cases ha : tree.id = a
  · rw [if_pos (.inl ha), ← ha, deleteFrom_root]
    rfl
  · obtain ⟨hdelete, hnodup⟩ := deleteFrom_some h ha
    rw [hdelete]
    by_cases hb : tree.id = b
    · rw [if_pos (.inr hb), ← hb, ← id_prune a tree, deleteFrom_root]
    · rw [if_neg (not_or.mpr ⟨ha, hb⟩)]
      exact (deleteFrom_some hnodup (by rwa [id_prune])).1

/-- Where identifiers occur once, the removal of a node other than the root takes one block out of
the outline and one child out of one list of children, and removals can be exchanged. -/
theorem deleteFrom_cuts_block_and_comm {tree : Node α} (h : tree.ids.Nodup) :
    (∀ id ≠ tree.id, ∃ new, deleteFrom id (some tree) = some new ∧ (id ∉ tree.ids → new = tree) ∧
      ∀ n ∈ tree.preorder, n.id = id →
        (∃ before after, tree.outline = before ++ n.outline ++ after ∧
          new.outline = before ++ after) ∧
        ∃ (way : List (Level α)) (level : Level α),
          tree = plug way (level.fill n) ∧ new = plug way level.close) ∧
    ∀ a b, deleteFrom b (deleteFrom a (some tree)) = deleteFrom a (deleteFrom b (some tree)) := by
  refine ⟨fun id hroot => ?_, fun a b => ?_⟩
  · refine ⟨_, (deleteFrom_some h hroot.symm).1, prune_of_notMem, ?_⟩
    rintro n hn rfl
    have hfind := (find?_eq_some_iff h).mpr ⟨hn, rfl⟩
    obtain ⟨way, level, rfl, -⟩ := exists_delete_of_find? h hfind hroot.symm
    rw [prune_plug_fill (id_notMem_ids_close h)]
    exact ⟨⟨_, _, outline_plug_fill way level n, outline_plug_close way level⟩,
      way, level, rfl, rfl⟩
  · rw [deleteFrom_deleteFrom h, deleteFrom_deleteFrom h, prune_comm]
    simp only [or_comm]

/-- A group of two discs beside a third one. -/
def groupedDiscs : Node Float32 :=
  .combine "u" .union
    [.combine "g" .group [.circle "a" .zero 1.0, .circle "b" .zero 1.0], .circle "c" .zero 1.0]

/-- A disc can be removed before or after the group that it stands in. -/
theorem deleteFrom_groupedDiscs :
    groupedDiscs.ids.Nodup ∧
    (∃ new, deleteFrom "b" (some groupedDiscs) = some new ∧
      ∃ before after, groupedDiscs.outline = before ++ [.circle "b" .zero 1.0] ++ after ∧
        new.outline = before ++ after) ∧
    deleteFrom "g" (deleteFrom "b" (some groupedDiscs))
      = deleteFrom "b" (deleteFrom "g" (some groupedDiscs)) := by
  have hids : groupedDiscs.ids.Nodup := by decide
  obtain ⟨hcut, hcomm⟩ := deleteFrom_cuts_block_and_comm hids
  obtain ⟨new, hnew, -, hblock⟩ := hcut "b" (by decide)
  have hmem : Node.circle "b" .zero 1.0 ∈ groupedDiscs.preorder :=
    .tail _ (.tail _ (.tail _ (.head _)))
  exact ⟨hids, ⟨new, hnew, (hblock _ hmem rfl).1⟩, hcomm "b" "g"⟩

end DistanceField.Node
