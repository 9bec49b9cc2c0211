import Mathlib
import DistanceField.Proofs.Edit.Update
import DistanceField.Proofs.Edit.Validity

/-!
# Exchanging siblings

An exchange looks for a node by its identifier and lets two of its children change places. Done
twice, it looks for the node in a tree in which whole subtrees have moved, and finds it in the same
hole: what moves is behind the hole, never before it. Exchanges below different nodes can be made in
either order if identifiers occur once.

A node is moved up or down by one such exchange, made at its parent. Moving it back undoes it.
-/

namespace DistanceField.Node

variable {α : Type}

/-! ### Exchanging entries of a list -/

lemma exchange_eq_of_lt {i j : Nat} {ns : List (Node α)} (hi : i < ns.length)
    (hj : j < ns.length) : exchange i j ns = (ns.set i ns[j]).set j ns[i] := by
  simp [exchange, hi, hj]

/-- Nothing is exchanged with itself or out of range. -/
lemma exchange_eq_self {i j : Nat} {ns : List (Node α)}
    (h : ¬ (i ≠ j ∧ i < ns.length ∧ j < ns.length)) : exchange i j ns = ns := by
  by_cases hij : i = j
  · subst hij
    by_cases hi : i < ns.length
    · simp [exchange_eq_of_lt hi hi]
    · simp [exchange, hi]
  · have hout : ¬ (i < ns.length ∧ j < ns.length) := fun hin => h ⟨hij, hin⟩
    rw [exchange]
    split
    · rename_i ha hb
      obtain ⟨hi, -⟩ := List.getElem?_eq_some_iff.mp ha
      obtain ⟨hj, -⟩ := List.getElem?_eq_some_iff.mp hb
      exact absurd ⟨hi, hj⟩ hout
    · rfl

lemma exchange_exchange (i j : Nat) (ns : List (Node α)) :
    exchange i j (exchange i j ns) = ns := by
  by_cases h : i ≠ j ∧ i < ns.length ∧ j < ns.length
  · obtain ⟨hij, hi, hj⟩ := h
    rw [exchange_eq_of_lt hi hj, exchange_eq_of_lt (by simpa) (by simpa)]
    apply List.ext_getElem
    · simp
    · intro k hk hk'
      simp only [List.getElem_set]
      split_ifs <;> simp_all
  · rw [exchange_eq_self h, exchange_eq_self h]

lemma exchange_map (i j : Nat) (f : Node α → Node α) (ns : List (Node α)) :
    exchange i j (ns.map f) = (exchange i j ns).map f := by
  by_cases h : i < ns.length ∧ j < ns.length
  · obtain ⟨hi, hj⟩ := h
    rw [exchange_eq_of_lt hi hj, exchange_eq_of_lt (by simpa) (by simpa)]
    simp [List.map_set]
  · rw [exchange_eq_self fun hin => h hin.2, exchange_eq_self]
    simpa using fun _ => by simpa using h

lemma exchange_adjacent (elder : List (Node α)) (a b : Node α) (younger : List (Node α)) :
    exchange elder.length (elder.length + 1) (elder ++ a :: b :: younger)
      = elder ++ b :: a :: younger := by
  rw [exchange_eq_of_lt (by simp) (by simp)]
  simp

lemma exchange_comm (i j : Nat) (ns : List (Node α)) : exchange i j ns = exchange j i ns := by
  by_cases h : i ≠ j ∧ i < ns.length ∧ j < ns.length
  · obtain ⟨hij, hi, hj⟩ := h
    rw [exchange_eq_of_lt hi hj, exchange_eq_of_lt hj hi, List.set_comm _ _ hij]
  · rw [exchange_eq_self h, exchange_eq_self]
    rintro ⟨hji, hj, hi⟩
    exact h ⟨hji.symm, hi, hj⟩

/-- Letting two children change places is a local change. -/
lemma local_exchange (i j : Nat) : Local (mapChildren (α := α) (exchange i j)) where
  id_eq n := id_mapChildren _ n
  mapChildren_eq g n := by
    cases n with
    | primitive info body => rfl
    | operation info op children => simp [mapChildren, exchange_map]

/-! ### Exchanging children -/

/-- The tree after an exchange of two children; one that is rejected leaves it as it is. -/
def swapChildren (tree : Node α) (id : String) (i j : Nat) : Node α :=
  (tree.swapChildren? id i j).getD tree

lemma FirstIn.swapChildren?_plug {way : List (Level α)} {n : Node α} (h : FirstIn way n)
    (i j : Nat) :
    (plug way n).swapChildren? n.id i j
      = if i ≠ j ∧ i < n.children.length ∧ j < n.children.length then
          some (plug way (n.mapChildren (exchange i j)))
        else none := by
  simp [swapChildren?, h.find?_plug, h.update?_plug, and_assoc]

lemma FirstIn.swapChildren_plug {way : List (Level α)} {n : Node α} (h : FirstIn way n)
    (i j : Nat) :
    (plug way n).swapChildren n.id i j = plug way (n.mapChildren (exchange i j)) := by
  rw [swapChildren, h.swapChildren?_plug]
  split_ifs with hin
  · rfl
  · have hsame : n.mapChildren (exchange i j) = n := by
      cases n with
      | primitive info body => rfl
      | operation info op children => exact congrArg _ (exchange_eq_self hin)
    rw [hsame]
    rfl

lemma swapChildren_of_notMem {tree : Node α} {id : String} (h : id ∉ tree.ids) (i j : Nat) :
    tree.swapChildren id i j = tree := by
  simp [swapChildren, swapChildren?, find?_eq_none_iff.mpr h]

/-- Two exchanges of the same children undo each other, whatever else has the identifier. -/
lemma swapChildren_swapChildren (tree : Node α) (id : String) (i j : Nat) :
    (tree.swapChildren id i j).swapChildren id i j = tree := by
  cases hfind : tree.find? id with
  | none =>
    have hid := find?_eq_none_iff.mp hfind
    rw [swapChildren_of_notMem hid, swapChildren_of_notMem hid]
  | some n =>
    obtain ⟨way, rfl, rfl, hfirst⟩ := exists_firstIn_of_find? hfind
    have hid : (n.mapChildren (exchange i j)).id = n.id := id_mapChildren _ n
    have hagain := (hfirst.congr hid).swapChildren_plug i j
    rw [hid] at hagain
    rw [hfirst.swapChildren_plug, hagain]
    cases n with
    | primitive info body => rfl
    | operation info op children => simp [mapChildren, exchange_exchange]

/-- Where identifiers occur once, an exchange is a change of whatever has the identifier. -/
lemma swapChildren_eq_changeAt {tree : Node α} (h : tree.ids.Nodup) (id : String) (i j : Nat) :
    tree.swapChildren id i j = tree.changeAt id (mapChildren (exchange i j)) := by
  cases hfind : tree.find? id with
  | none =>
    have hid := find?_eq_none_iff.mp hfind
    rw [swapChildren_of_notMem hid, changeAt_of_notMem hid]
  | some n =>
    obtain ⟨way, rfl, rfl, hfirst⟩ := exists_firstIn_of_find? hfind
    rw [hfirst.swapChildren_plug, changeAt_plug_self h]

lemma ids_plug_operation_perm (way : List (Level α)) (info : Info) (op : Operator α)
    {cs ds : List (Node α)} (h : cs.Perm ds) :
    (plug way (.operation info op cs)).ids.Perm (plug way (.operation info op ds)).ids := by
  have hids : (Node.operation info op cs).ids.Perm (Node.operation info op ds).ids := by
    rw [ids_eq, ids_eq (.operation info op ds)]
    exact (h.flatMap_right ids).cons _
  exact (ids_plug_perm way _).trans ((hids.append_left _).trans (ids_plug_perm way _).symm)

lemma ids_swapChildren_perm (tree : Node α) (id : String) (i j : Nat) :
    (tree.swapChildren id i j).ids.Perm tree.ids := by
  cases hfind : tree.find? id with
  | none => rw [swapChildren_of_notMem (find?_eq_none_iff.mp hfind)]
  | some n =>
    obtain ⟨way, rfl, rfl, hfirst⟩ := exists_firstIn_of_find? hfind
    rw [hfirst.swapChildren_plug]
    cases n with
    | primitive info body => exact List.Perm.refl _
    | operation info op children =>
      exact ids_plug_operation_perm way info op (exchange_perm i j children)

/-- Where identifiers occur once, exchanges below different nodes can be made in either order. -/
lemma swapChildren_comm {tree : Node α} (h : tree.ids.Nodup) {a b : String} (hne : a ≠ b)
    (i j k l : Nat) :
    (tree.swapChildren a i j).swapChildren b k l
      = (tree.swapChildren b k l).swapChildren a i j := by
  have hfirst : ∀ (c : String) (i j : Nat), (tree.swapChildren c i j).ids.Nodup :=
    fun c i j => (ids_swapChildren_perm tree c i j).nodup_iff.mpr h
  rw [swapChildren_eq_changeAt (hfirst a i j), swapChildren_eq_changeAt (hfirst b k l),
    swapChildren_eq_changeAt h, swapChildren_eq_changeAt h]
  exact changeAt_comm hne (local_exchange i j) (local_exchange k l) tree

/-! ### Moving a node up or down -/

lemma map_id_sublist_flatMap_ids (ns : List (Node α)) :
    (ns.map id).Sublist (ns.flatMap ids) := by
  induction ns with
  | nil => exact List.Sublist.refl _
  | cons n rest ih =>
    have hroot : [n.id].Sublist n.ids := List.singleton_sublist.mpr n.id_mem_ids
    exact hroot.append ih

/-- The parent of a node is the operation that has it as a child, at the end of a way. -/
lemma exists_fill_of_findParent? {tree parent : Node α} {id : String} (h : tree.ids.Nodup)
    (hfind : tree.findParent? id = some parent) :
    ∃ (way : List (Level α)) (level : Level α) (n : Node α),
      n.id = id ∧ parent = level.fill n ∧ tree = plug way (level.fill n) := by
  obtain ⟨hparent, hchild⟩ := (findParent?_eq_some_iff h).mp hfind
  obtain ⟨n, hn, hid⟩ := List.mem_map.mp hchild
  obtain ⟨way, rfl⟩ := exists_plug_of_mem hparent
  cases parent with
  | primitive info body => simp at hn
  | operation info op children =>
    obtain ⟨before, after, rfl⟩ := List.append_of_mem hn
    exact ⟨way, ⟨info, op, before, after⟩, n, hid, rfl, rfl⟩

section

variable {way : List (Level α)} {level : Level α} {n : Node α}

lemma findParent?_plug_fill (h : (plug way (level.fill n)).ids.Nodup) :
    (plug way (level.fill n)).findParent? n.id = some (level.fill n) := by
  rw [findParent?_eq_some_iff h]
  exact ⟨mem_preorder_plug (self_mem_preorder _), by simp [Level.fill]⟩

lemma nodup_childIds_fill (h : (plug way (level.fill n)).ids.Nodup) :
    ((level.fill n).children.map id).Nodup := by
  have hfill : (level.fill n).ids.Nodup :=
    (ids_sublist (mem_preorder_plug (self_mem_preorder _))).nodup h
  rw [ids_eq, List.nodup_cons] at hfill
  exact hfill.2.sublist (map_id_sublist_flatMap_ids _)

/-- The place of a child is the number of its elder siblings. -/
lemma childIndex?_fill (h : (plug way (level.fill n)).ids.Nodup) :
    (level.fill n).childIndex? n.id = some level.before.length := by
  have hids := nodup_childIds_fill h
  rw [Level.fill, children_operation, List.map_append, List.map_cons, List.nodup_append'] at hids
  have helder : level.before.findIdx? (·.id == n.id) = none := by
    rw [List.findIdx?_eq_none_iff]
    intro c hc
    apply beq_false_of_ne
    intro heq
    exact hids.2.2 (List.mem_map_of_mem hc) (heq ▸ List.mem_cons_self)
  simp [childIndex?, Level.fill, List.findIdx?_append, List.findIdx?_cons, helder]

lemma reorder?_up_eq (h : (plug way (level.fill n)).ids.Nodup) {i : Nat}
    (hi : level.before.length = i + 1) :
    (plug way (level.fill n)).reorder? n.id .up
      = (plug way (level.fill n)).swapChildren? (level.fill n).id (i + 1) i := by
  simp [reorder?, findParent?_plug_fill h, childIndex?_fill h, hi]

lemma reorder?_down_eq (h : (plug way (level.fill n)).ids.Nodup) :
    (plug way (level.fill n)).reorder? n.id .down
      = (plug way (level.fill n)).swapChildren? (level.fill n).id level.before.length
        (level.before.length + 1) := by
  simp [reorder?, findParent?_plug_fill h, childIndex?_fill h]

lemma reorder?_up_first (h : (plug way (level.fill n)).ids.Nodup) (hfirst : level.before = []) :
    (plug way (level.fill n)).reorder? n.id .up = none := by
  simp [reorder?, findParent?_plug_fill h, childIndex?_fill h, hfirst]

lemma reorder?_down_last (h : (plug way (level.fill n)).ids.Nodup) (hlast : level.after = []) :
    (plug way (level.fill n)).reorder? n.id .down = none := by
  rw [reorder?_down_eq h, (firstIn_of_nodup h).swapChildren?_plug]
  simp [Level.fill, hlast]

variable {info : Info} {op : Operator α} {elder younger : List (Node α)} {a b : Node α}

lemma reorder?_up_plug
    (h : (plug way (.operation info op (elder ++ a :: b :: younger))).ids.Nodup) :
    (plug way (.operation info op (elder ++ a :: b :: younger))).reorder? b.id .up
      = some (plug way (.operation info op (elder ++ b :: a :: younger))) := by
  have hfill : Node.operation info op (elder ++ a :: b :: younger)
      = Level.fill ⟨info, op, elder ++ [a], younger⟩ b := by
    simp [Level.fill]
  have hswap := (firstIn_of_nodup h).swapChildren?_plug (elder.length + 1) elder.length
  rw [if_pos (by simp), mapChildren, exchange_comm, exchange_adjacent] at hswap
  rw [← hswap]
  rw [hfill] at h ⊢
  exact reorder?_up_eq h (by simp)

lemma reorder?_down_plug
    (h : (plug way (.operation info op (elder ++ a :: b :: younger))).ids.Nodup) :
    (plug way (.operation info op (elder ++ a :: b :: younger))).reorder? a.id .down
      = some (plug way (.operation info op (elder ++ b :: a :: younger))) := by
  have hswap := (firstIn_of_nodup h).swapChildren?_plug elder.length (elder.length + 1)
  rw [if_pos (by simp), mapChildren, exchange_adjacent] at hswap
  rw [← hswap]
  exact @reorder?_down_eq _ way ⟨info, op, elder, b :: younger⟩ a h

end

/-- Two neighbours among the children of one node have changed places, and nothing else has. -/
def Exchanged (tree first second new : Node α) : Prop :=
  ∃ (way : List (Level α)) (info : Info) (op : Operator α) (elder younger : List (Node α)),
    tree = plug way (.operation info op (elder ++ first :: second :: younger)) ∧
    new = plug way (.operation info op (elder ++ second :: first :: younger))

namespace Exchanged

variable {tree new a b : Node α}

lemma symm (h : tree.Exchanged a b new) : new.Exchanged b a tree := by
  obtain ⟨way, info, op, elder, younger, rfl, rfl⟩ := h
  exact ⟨way, info, op, elder, younger, rfl, rfl⟩

lemma nodup (h : tree.Exchanged a b new) (hids : tree.ids.Nodup) : new.ids.Nodup := by
  obtain ⟨way, info, op, elder, younger, rfl, rfl⟩ := h
  have hperm := ids_plug_operation_perm way info op ((List.Perm.swap a b younger).append_left elder)
  exact hperm.nodup_iff.mpr hids

lemma reorder?_up (h : tree.Exchanged a b new) (hids : tree.ids.Nodup) :
    tree.reorder? b.id .up = some new := by
  obtain ⟨way, info, op, elder, younger, rfl, rfl⟩ := h
  exact reorder?_up_plug hids

lemma reorder?_down (h : tree.Exchanged a b new) (hids : tree.ids.Nodup) :
    tree.reorder? a.id .down = some new := by
  obtain ⟨way, info, op, elder, younger, rfl, rfl⟩ := h
  exact reorder?_down_plug hids

end Exchanged

/-- A node moves up exactly by changing places with the sibling before it. -/
lemma reorder?_up_eq_some_iff {tree new : Node α} {id : String} (h : tree.ids.Nodup) :
    tree.reorder? id .up = some new ↔ ∃ elder n, n.id = id ∧ tree.Exchanged elder n new := by
  refine ⟨fun hnew => ?_, fun ⟨_, _, hid, hexchanged⟩ => hid ▸ hexchanged.reorder?_up h⟩
  obtain ⟨parent, hparent, -⟩ := Option.bind_eq_some_iff.mp hnew
  obtain ⟨way, level, n, rfl, -, rfl⟩ := exists_fill_of_findParent? h hparent
  obtain ⟨info, op, before, after⟩ := level
  rcases List.eq_nil_or_concat' before with rfl | ⟨elder, sibling, rfl⟩
  · rw [reorder?_up_first h rfl] at hnew
    cases hnew
  · rw [Level.fill, List.append_assoc, List.singleton_append] at h hnew ⊢
    rw [reorder?_up_plug h] at hnew
    exact ⟨sibling, n, rfl, way, info, op, elder, after, rfl, (Option.some.inj hnew).symm⟩

/-- A node moves down exactly by changing places with the sibling after it. -/
lemma reorder?_down_eq_some_iff {tree new : Node α} {id : String} (h : tree.ids.Nodup) :
    tree.reorder? id .down = some new ↔ ∃ n younger, n.id = id ∧ tree.Exchanged n younger new := by
  refine ⟨fun hnew => ?_, fun ⟨_, _, hid, hexchanged⟩ => hid ▸ hexchanged.reorder?_down h⟩
  obtain ⟨parent, hparent, -⟩ := Option.bind_eq_some_iff.mp hnew
  obtain ⟨way, level, n, rfl, -, rfl⟩ := exists_fill_of_findParent? h hparent
  obtain ⟨info, op, before, after⟩ := level
  cases after with
  | nil =>
    rw [reorder?_down_last h rfl] at hnew
    cases hnew
  | cons sibling younger =>
    rw [Level.fill] at h hnew ⊢
    rw [reorder?_down_plug h] at hnew
    exact ⟨n, sibling, rfl, way, info, op, before, younger, rfl, (Option.some.inj hnew).symm⟩

/-- An exchange of children undoes itself, in any tree. Where identifiers occur once, exchanges
below different nodes can be made in either order, and a node that is moved up or down changes
places with one sibling and comes back when it is moved the other way. -/
theorem sibling_exchange_laws (tree : Node α) :
    (∀ id i j, (tree.swapChildren id i j).swapChildren id i j = tree) ∧
    (tree.ids.Nodup →
      (∀ a b, a ≠ b → ∀ i j k l, (tree.swapChildren a i j).swapChildren b k l
        = (tree.swapChildren b k l).swapChildren a i j) ∧
      (∀ id new,
        (tree.reorder? id .up = some new ↔
          ∃ elder n, n.id = id ∧ tree.Exchanged elder n new) ∧
        (tree.reorder? id .down = some new ↔
          ∃ n younger, n.id = id ∧ tree.Exchanged n younger new)) ∧
      ∀ id new,
        (tree.reorder? id .up = some new → new.reorder? id .down = some tree) ∧
        (tree.reorder? id .down = some new → new.reorder? id .up = some tree)) := by
  refine ⟨tree.swapChildren_swapChildren, fun h => ⟨fun a b hne => swapChildren_comm h hne,
    fun id new => ⟨reorder?_up_eq_some_iff h, reorder?_down_eq_some_iff h⟩,
    fun id new => ⟨?_, ?_⟩⟩⟩
  · intro hnew
    obtain ⟨elder, n, rfl, hexchanged⟩ := (reorder?_up_eq_some_iff h).mp hnew
    exact hexchanged.symm.reorder?_down (hexchanged.nodup h)
  · intro hnew
    obtain ⟨n, younger, rfl, hexchanged⟩ := (reorder?_down_eq_some_iff h).mp hnew
    exact hexchanged.symm.reorder?_up (hexchanged.nodup h)

/-- A disc moves before the group beside it and back, and that exchange can be made before or after
the one inside the group. -/
theorem sibling_exchange_groupedDiscs :
    groupedDiscs.ids.Nodup ∧
    (groupedDiscs.swapChildren "u" 0 1).swapChildren "g" 0 1
      = (groupedDiscs.swapChildren "g" 0 1).swapChildren "u" 0 1 ∧
    ∃ new, groupedDiscs.reorder? "c" .up = some new ∧
      new.reorder? "c" .down = some groupedDiscs := by
  have hids : groupedDiscs.ids.Nodup := by decide
  obtain ⟨hcomm, -, hback⟩ := (sibling_exchange_laws groupedDiscs).2 hids
  exact ⟨hids, hcomm "u" "g" (by decide) 0 1 0 1, _, rfl, (hback "c" _).1 rfl⟩

end DistanceField.Node
