import Mathlib
import DistanceField.Proofs.Edit.Insertion
import DistanceField.Proofs.Node.Defect

/-!
# Editing keeps trees well formed

Each edit changes the children of one node, wraps one node or moves one, so each is an instance of
changing what fills a hole. The limit of displacements is kept by the edits themselves, which look
at the node that they change. An edit that brings in a node is admissible if that node is well
formed and its identifiers are not taken.

A session is kept well formed by any admissible edits, rejected ones among them.
-/

namespace DistanceField

variable {α : Type}

namespace Node

/-! ### Changing the children of one node -/

lemma flatMap_ids_subperm {cs ds : List (Node α)} (h : cs.Subperm ds) :
    (cs.flatMap ids).Subperm (ds.flatMap ids) := by
  obtain ⟨kept, hperm, hsublist⟩ := h
  exact (hperm.flatMap_right ids).symm.subperm.trans (hsublist.flatMap ids).subperm

lemma ids_mapChildren_subperm {n : Node α} {f : List (Node α) → List (Node α)}
    (hf : (f n.children).Subperm n.children) : (n.mapChildren f).ids.Subperm n.ids := by
  cases n with
  | primitive info body => exact List.Subperm.refl _
  | operation info op children =>
    rw [mapChildren, ids_eq, ids_eq (.operation info op children)]
    exact (List.subperm_cons _).mpr (flatMap_ids_subperm hf)

lemma WithinLimit.mapChildren {n : Node α} {f : List (Node α) → List (Node α)}
    (h : n.WithinLimit) (hf : (f n.children).Subperm n.children) :
    (n.mapChildren f).WithinLimit := by
  cases n with
  | primitive info body => exact h
  | operation info op children =>
    obtain ⟨harity, hchildren⟩ := withinLimit_operation_iff.mp h
    exact withinLimit_operation_iff.mpr ⟨fun hkind => hf.length_le.trans (harity hkind),
      fun c hc => hchildren c (hf.subset hc)⟩

/-- Children can be left out or put in another order. -/
lemma WellFormed.rearrange {way : List (Level α)} {n : Node α}
    {f : List (Node α) → List (Node α)} (h : (plug way n).WellFormed)
    (hf : (f n.children).Subperm n.children) : (plug way (n.mapChildren f)).WellFormed := by
  refine h.replace (h.withinLimit.of_plug.mapChildren hf) (fresh_nil _) ?_
  rw [List.append_nil]
  exact ids_mapChildren_subperm hf

/-- An operation that takes one more child is still within the limit with it. -/
lemma WithinLimit.fill {level : Level α} {node : Node α} (h : level.close.WithinLimit)
    (haccepts : level.close.acceptsChild = true) (hnode : node.WithinLimit) :
    (level.fill node).WithinLimit := by
  obtain ⟨-, hsiblings⟩ := withinLimit_operation_iff.mp h
  refine withinLimit_fill_iff.mpr ⟨⟨fun hkind => ?_, hsiblings⟩, hnode⟩
  have hroom : level.before.length + level.after.length < displaceLimit := by
    simpa [Level.close, acceptsChild, hkind] using haccepts
  omega

/-! ### Updating, removing and inserting -/

/-- A change that keeps identifier, kind and children of a node. -/
structure Keeps (f : Node α → Node α) (n : Node α) : Prop where
  id_eq : (f n).id = n.id
  kind_eq : (f n).kind = n.kind
  children_eq : (f n).children = n.children

lemma WellFormed.update? {tree new : Node α} {id : String} {f : Node α → Node α}
    (h : tree.WellFormed) (hf : ∀ n ∈ tree.find? id, Keeps f n)
    (hnew : tree.update? id f = some new) : new.WellFormed := by
  obtain ⟨way, n, hfind, rfl, rfl⟩ := exists_plug_of_replaceFirst? hnew
  have hkeeps : Keeps f n := hf n hfind
  refine h.replace ?_ (fresh_nil _) ?_
  · rw [withinLimit_iff, hkeeps.kind_eq, hkeeps.children_eq, ← withinLimit_iff]
    exact h.withinLimit.of_plug
  · rw [List.append_nil, ids_eq (f n), ids_eq n, hkeeps.id_eq, hkeeps.children_eq]

lemma WellFormed.remove? {tree new : Node α} {id : String} (h : tree.WellFormed)
    (hnew : tree.remove? id = some new) : new.WellFormed := by
  obtain ⟨way, n, -, rfl, rfl⟩ := exists_plug_of_replaceFirst? hnew
  exact h.rearrange List.filter_sublist.subperm

lemma WithinLimit.insert? {tree node new : Node α} {id : String} {place : Place}
    (h : tree.WithinLimit) (hnode : node.WithinLimit)
    (hnew : tree.insert? id node place = some new) : new.WithinLimit := by
  obtain ⟨way, level, -, haccepts, rfl, rfl⟩ := exists_gap_of_insert? hnew
  exact h.replace (h.of_plug.fill haccepts hnode)

lemma WellFormed.insert? {tree node new : Node α} {id : String} {place : Place}
    (h : tree.WellFormed) (hnode : node.WellFormed) (hdisjoint : node.ids.Disjoint tree.ids)
    (hnew : tree.insert? id node place = some new) : new.WellFormed := by
  refine h.of_subperm (h.withinLimit.insert? hnode.withinLimit hnew) (hnode.fresh hdisjoint) ?_
  obtain ⟨way, level, -, -, rfl, rfl⟩ := exists_gap_of_insert? hnew
  exact (ids_plug_fill_perm way level node).subperm

/-- An operation is within the limit around a single node, whatever children it had. -/
lemma WithinLimit.withChildren {n wrapper : Node α} (h : n.WithinLimit)
    (hop : wrapper.isPrimitive = false) : (wrapper.withChildren [n]).WithinLimit := by
  cases wrapper with
  | primitive info body => cases hop
  | operation info op children =>
    exact withinLimit_operation_iff.mpr ⟨fun _ => Nat.le_succ 1, List.forall_mem_singleton.mpr h⟩

lemma WithinLimit.wrap? {tree wrapper new : Node α} {id : String} (h : tree.WithinLimit)
    (hop : wrapper.isPrimitive = false) (hnew : tree.wrap? id wrapper = some new) :
    new.WithinLimit := by
  obtain ⟨way, n, -, rfl, rfl⟩ := exists_plug_of_replaceFirst? hnew
  exact h.replace (h.of_plug.withChildren hop)

/-- An operation whose identifier is not taken can be put around a node; its own children go. -/
lemma WellFormed.wrap? {tree wrapper new : Node α} {id : String} (h : tree.WellFormed)
    (hop : wrapper.isPrimitive = false) (hid : wrapper.id ≠ "") (hfresh : wrapper.id ∉ tree.ids)
    (hnew : tree.wrap? id wrapper = some new) : new.WellFormed := by
  obtain ⟨way, n, -, rfl, rfl⟩ := exists_plug_of_replaceFirst? hnew
  refine h.replace (h.withinLimit.of_plug.withChildren hop) (fresh_singleton hid hfresh) ?_
  cases wrapper with
  | primitive info body => cases hop
  | operation info op children =>
    rw [Node.withChildren, Node.mapChildren, ids_eq, children_operation, List.flatMap_singleton]
    exact (List.perm_append_singleton _ _).symm.subperm

/-! ### Moving -/

/-- A node other than the root can be removed, and then none of its identifiers is taken. -/
lemma WellFormed.exists_remove? {tree n : Node α} {id : String} (h : tree.WellFormed)
    (hfind : tree.find? id = some n) (hroot : tree.id ≠ id) :
    ∃ base, tree.remove? id = some base ∧ base.WellFormed ∧ n.ids.Disjoint base.ids := by
  obtain ⟨way, level, rfl, hdelete⟩ := exists_delete_of_find? h.nodup hfind hroot
  have hremove := (remove?_of_delete_eq hdelete).2
  exact ⟨_, hremove, h.remove? hremove, (nodup_ids_plug_fill.mp h.nodup).2.2.symm⟩

/-- What has to hold for a move, and what it gives. -/
lemma move?_eq_some {tree new : Node α} {id target : String} {place : Place}
    (h : tree.move? id target place = some new) :
    ∃ dragged goal, tree.find? id = some dragged ∧ tree.find? target = some goal ∧
      id ≠ target ∧ dragged.find? target = none ∧ tree.id ≠ id ∧
      (if place = .inside ∧ goal.isPrimitive ∧ ¬ dragged.isPrimitive then
          ((tree.remove? id).getD tree).wrap? target dragged
        else ((tree.remove? id).getD tree).insert? target dragged place) = some new := by
  rw [move?] at h
  simp only [Option.bind_eq_bind, Option.bind_eq_some_iff, Option.guard_eq_some'] at h
  obtain ⟨_, hne, dragged, hdragged, goal, hgoal, _, hbelow, _, hroot, hnew⟩ := h
  exact ⟨dragged, goal, hdragged, hgoal, hne, Option.isNone_iff_eq_none.mp hbelow, hroot, hnew⟩

lemma WellFormed.move? {tree new : Node α} {id target : String} {place : Place}
    (h : tree.WellFormed) (hnew : tree.move? id target place = some new) : new.WellFormed := by
  obtain ⟨dragged, goal, hdragged, -, -, -, hroot, hnew⟩ := move?_eq_some hnew
  obtain ⟨base, hremove, hbase, hdisjoint⟩ := h.exists_remove? hdragged hroot
  have hwell : dragged.WellFormed := h.of_mem (mem_preorder_of_findFirst? hdragged).1
  rw [hremove, Option.getD_some] at hnew
  split_ifs at hnew with hwrap
  · have hop : dragged.isPrimitive = false := Bool.eq_false_iff.mpr hwrap.2.2
    exact hbase.wrap? hop hwell.root_id_ne (hdisjoint dragged.id_mem_ids) hnew
  · exact hbase.insert? hwell hdisjoint hnew

/-! ### Exchanging, unfolding and adding -/

lemma exchange_perm (i j : Nat) (ns : List (Node α)) : (exchange i j ns).Perm ns := by
  rw [exchange]
  split
  · rename_i a b ha hb
    obtain ⟨hi, rfl⟩ := List.getElem?_eq_some_iff.mp ha
    obtain ⟨hj, rfl⟩ := List.getElem?_eq_some_iff.mp hb
    exact List.set_set_perm hi hj
  · exact List.Perm.refl _

lemma WellFormed.swapChildren? {tree new : Node α} {id : String} {i j : Nat} (h : tree.WellFormed)
    (hnew : tree.swapChildren? id i j = some new) : new.WellFormed := by
  rw [Node.swapChildren?] at hnew
  split_ifs at hnew
  obtain ⟨way, n, -, rfl, rfl⟩ := exists_plug_of_replaceFirst? hnew
  exact h.rearrange (exchange_perm i j n.children).subperm

lemma WellFormed.reorder? {tree new : Node α} {id : String} {direction : Direction}
    (h : tree.WellFormed) (hnew : tree.reorder? id direction = some new) : new.WellFormed := by
  rw [Node.reorder?] at hnew
  simp only [Option.bind_eq_bind, Option.bind_eq_some_iff] at hnew
  obtain ⟨parent, -, i, -, hnew⟩ := hnew
  split at hnew
  · cases hnew
  · exact h.swapChildren? hnew
  · exact h.swapChildren? hnew

lemma WellFormed.expandAncestors? {tree new : Node α} {id : String} (h : tree.WellFormed)
    (hnew : tree.expandAncestors? id = some new) : new.WellFormed := by
  rw [Node.expandAncestors?] at hnew
  split_ifs at hnew
  obtain ⟨way, n, rfl, rfl⟩ := exists_plug_of_expandTo? hnew
  obtain ⟨hway, hn⟩ := withinLimit_plug_iff.mp h.withinLimit
  refine h.of_subperm (withinLimit_plug_iff.mpr ⟨?_, hn⟩) (fresh_nil _) ?_
  · rintro _ hlevel
    obtain ⟨level, hmem, rfl⟩ := List.mem_map.mp hlevel
    exact ⟨(hway level hmem).arity_le, (hway level hmem).siblings⟩
  · have hids : (way.map Level.unfold).flatMap Level.ids = way.flatMap Level.ids :=
      List.flatMap_map Level.unfold Level.ids way
    have hperm := ids_plug_perm (way.map Level.unfold) n
    rw [hids] at hperm
    rw [List.append_nil]
    exact (hperm.trans (ids_plug_perm way n).symm).subperm

variable [Scalar α]

lemma WithinLimit.unite {a b : Node α} (ha : a.WithinLimit) (hb : b.WithinLimit) (id : String) :
    (unite id a b).WithinLimit :=
  withinLimit_operation_iff.mpr
    ⟨nofun, List.forall_mem_cons.mpr ⟨ha, List.forall_mem_singleton.mpr hb⟩⟩

lemma WellFormed.unite {a b : Node α} {id : String} (ha : a.WellFormed) (hb : b.WellFormed)
    (hdisjoint : b.ids.Disjoint a.ids) (hid : id ≠ "") (hida : id ∉ a.ids) (hidb : id ∉ b.ids) :
    (unite id a b).WellFormed := by
  have hextra : a.Fresh (id :: b.ids) :=
    ⟨List.not_mem_cons_of_ne_of_not_mem hid.symm hb.id_ne, List.nodup_cons.mpr ⟨hidb, hb.nodup⟩,
      List.disjoint_cons_left.mpr ⟨hida, hdisjoint⟩⟩
  refine ha.of_subperm (ha.withinLimit.unite hb.withinLimit id) hextra ?_
  rw [ids_unite]
  exact List.perm_middle.symm.subperm

/-- What an addition gives is a union, a tree with the node around a part of it, or one with the
node inside of a part. -/
lemma add?_eq_some {tree node new : Node α} {selected : Option String} {unionId : String}
    (h : tree.add? selected node unionId = some new) :
    new = unite unionId tree node ∨
      (∃ id, node.isPrimitive = false ∧ tree.wrap? id node = some new) ∨
      ∃ id, tree.insert? id node .inside = some new := by
  rw [Node.add?] at h
  split at h
  · exact .inl (Option.some.inj h).symm
  · split_ifs at h with hwrap
    · exact .inr (.inl ⟨_, Bool.eq_false_iff.mpr hwrap.2, h⟩)
    · exact .inr (.inr ⟨_, h⟩)
    · -- the parent is looked up by its identifier again, so another node may take its place
      obtain ⟨parent, -, h⟩ := Option.bind_eq_some_iff.mp h
      exact .inr (.inr ⟨parent.id, h⟩)

lemma WithinLimit.add? {tree node new : Node α} {selected : Option String} {unionId : String}
    (h : tree.WithinLimit) (hnode : node.WithinLimit)
    (hnew : tree.add? selected node unionId = some new) : new.WithinLimit := by
  obtain rfl | ⟨id, hop, hnew⟩ | ⟨id, hnew⟩ := add?_eq_some hnew
  · exact h.unite hnode unionId
  · exact h.wrap? hop hnew
  · exact h.insert? hnode hnew

lemma WellFormed.add? {tree node new : Node α} {selected : Option String} {unionId : String}
    (h : tree.WellFormed) (hnode : node.WellFormed) (hdisjoint : node.ids.Disjoint tree.ids)
    (hid : unionId ≠ "") (hidtree : unionId ∉ tree.ids) (hidnode : unionId ∉ node.ids)
    (hnew : tree.add? selected node unionId = some new) : new.WellFormed := by
  obtain rfl | ⟨id, hop, hnew⟩ | ⟨id, hnew⟩ := add?_eq_some hnew
  · exact h.unite hnode hdisjoint hid hidtree hidnode
  · exact h.wrap? hop hnode.root_id_ne (hdisjoint node.id_mem_ids) hnew
  · exact h.insert? hnode hdisjoint hnew

end Node

/-! ### Admissible edits -/

/-- After an edit that gives a new tree or nothing, there is the new tree or the old one. -/
lemma Change.forall_mem_apply_ofOption {P : Node α → Prop} {tree : Node α}
    {result : Option (Node α)} (htree : P tree) (hresult : ∀ new, result = some new → P new) :
    ∀ t ∈ (Change.ofOption result).apply (some tree), P t := by
  intro t ht
  cases result with
  | none => exact Option.some.inj ht ▸ htree
  | some new => exact hresult t ht

/-- A node that can be brought into a scene: it passes the check, and none of its identifiers is
taken. -/
structure Node.Fits (scene : Option (Node α)) (node : Node α) : Prop where
  validate_eq : node.validate = .ok ()
  disjoint : ∀ tree ∈ scene, node.ids.Disjoint tree.ids

namespace Edit

/-- What is asked of an edit. Targets, places and positions are free; changes of kind are left
out. -/
def Admissible (scene : Option (Node α)) : Edit α → Prop
  | .update id f => ∀ tree ∈ scene, ∀ n ∈ tree.find? id, Node.Keeps f n
  | .insert _ node _ => node.Fits scene
  | .add _ node unionId =>
    node.Fits scene ∧ unionId ≠ "" ∧ unionId ∉ node.ids ∧ ∀ tree ∈ scene, unionId ∉ tree.ids
  | .setKind _ _ => False
  | .delete _ | .move _ _ _ | .reorder _ _ | .swap _ _ _ | .expand _ => True

variable [Scalar α]

/-- An edit of a tree leaves a well-formed tree or none. -/
lemma wellFormed_apply_run {tree : Node α} {e : Edit α} (h : tree.WellFormed)
    (he : e.Admissible (some tree)) :
    ∀ t ∈ (e.run tree).apply (some tree), t.WellFormed := by
  cases e with
  | update id f => exact Change.forall_mem_apply_ofOption h fun _ => h.update? (he tree rfl)
  | delete id =>
    rw [run, Node.delete]
    split_ifs
    · intro t ht
      cases ht
    · exact Change.forall_mem_apply_ofOption h fun _ => h.remove?
  | insert target node place =>
    have hnode := (Node.validate_eq_ok_iff node).mp he.validate_eq
    exact Change.forall_mem_apply_ofOption h fun _ => h.insert? hnode (he.disjoint tree rfl)
  | move id target place => exact Change.forall_mem_apply_ofOption h fun _ => h.move?
  | reorder id direction => exact Change.forall_mem_apply_ofOption h fun _ => h.reorder?
  | swap id i j => exact Change.forall_mem_apply_ofOption h fun _ => h.swapChildren?
  | setKind id kind => exact he.elim
  | expand id => exact Change.forall_mem_apply_ofOption h fun _ => h.expandAncestors?
  | add selected node unionId =>
    obtain ⟨hfits, hid, hidnode, hidtree⟩ := he
    have hnode := (Node.validate_eq_ok_iff node).mp hfits.validate_eq
    exact Change.forall_mem_apply_ofOption h fun _ =>
      h.add? hnode (hfits.disjoint tree rfl) hid (hidtree tree rfl) hidnode

/-- An edit of a well-formed scene leaves a well-formed scene. -/
lemma wellFormed_apply_runScene {scene : Option (Node α)} {e : Edit α} {c : Change α}
    (h : ∀ tree ∈ scene, tree.WellFormed) (he : e.Admissible scene)
    (hc : e.runScene scene = .ok c) : ∀ t ∈ c.apply scene, t.WellFormed := by
  cases scene with
  | some tree =>
    obtain rfl := Except.ok.inj hc
    exact wellFormed_apply_run (h tree rfl) he
  | none =>
    cases e with
    | add selected node unionId =>
      obtain rfl := Except.ok.inj hc
      intro t ht
      obtain rfl := Option.some.inj ht
      exact (Node.validate_eq_ok_iff node).mp he.1.validate_eq
    | _ => cases hc

end Edit

/-! ### Sessions -/

namespace Session

variable [Scalar α]

/-- The sessions that admissible edits lead to. An edit for which there is no tree fails, and then
the session stays as it is. -/
inductive Reachable (scene : Option (Node α)) : Session α → Prop
  | start : Reachable scene (start scene)
  | edit {s t : Session α} {e : Edit α} (hs : Reachable scene s) (he : e.Admissible s.scene)
    (ht : s.edit e = .ok t) : Reachable scene t

omit [Scalar α] in
lemma scene_change (s : Session α) (c : Change α) : (s.change c).scene = c.apply s.scene := by
  cases c <;> rfl

/-- Every session reached by admissible edits from a scene that passes the check holds a tree that
passes it, or none. -/
theorem validate_of_reachable {scene : Option (Node α)} {s : Session α}
    (hscene : ∀ tree ∈ scene, tree.validate = .ok ()) (hs : Reachable scene s) :
    ∀ tree ∈ s.scene, tree.validate = .ok () := by
  simp only [Node.validate_eq_ok_iff] at hscene ⊢
  induction hs with
  | start => exact hscene
  | @edit s t e _ he ht ih =>
    cases hrun : e.runScene s.scene with
    | error failure =>
      rw [Session.edit, hrun] at ht
      cases ht
    | ok c =>
      rw [Session.edit, hrun] at ht
      obtain rfl := Except.ok.inj ht
      rw [scene_change]
      exact Edit.wellFormed_apply_runScene ih he hrun

/-- A displacement with a base and a source, next to a circle. -/
def fullDisplace : Node Float32 :=
  .combine "u" .union
    [.combine "d" .displace [.circle "a" .zero 1.0, .circle "b" .zero 1.0], .circle "c" .zero 1.0]

/-- The source of a displacement is moved away, and then another one fits in. -/
theorem validate_refilledDisplace :
    (∀ tree ∈ some fullDisplace, tree.validate = .ok ()) ∧
    ∃ s t : Session Float32,
      (start (some fullDisplace)).edit (.move "b" "c" .before) = .ok s ∧
      s.edit (.insert "d" (.circle "e" .zero 1.0) .inside) = .ok t ∧
      ∀ tree ∈ t.scene, tree.validate = .ok () := by
  have hfull : ∀ tree ∈ some fullDisplace, tree.validate = .ok () := by
    rintro _ ⟨⟩
    rfl
  refine ⟨hfull, _, _, rfl, rfl, validate_of_reachable hfull ?_⟩
  refine .edit (e := .insert "d" (.circle "e" .zero 1.0) .inside)
    (.edit (e := .move "b" "c" .before) .start trivial rfl) ⟨rfl, ?_⟩ rfl
  rintro _ ⟨⟩
  exact List.singleton_disjoint.mpr (by decide)

end Session

end DistanceField
