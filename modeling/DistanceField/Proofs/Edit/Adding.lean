import Mathlib
import DistanceField.Proofs.Edit.Insertion

/-!
# Adding a node

Where a node goes that is added to a tree depends on what is selected: beside the whole tree, around
a selected shape, inside a selected operation, or inside the parent of what is selected. In each
case every node of the tree is kept, with its own fields and in the order that it had. Only what
goes inside an operation can be refused, and it can be removed again.
-/

namespace DistanceField.Node

variable {α : Type}

/-! ### What an addition gives -/

/-- The nodes of a tree are nodes of another one: each once, with its own fields and in order. -/
structure Retained (tree new : Node α) : Prop where
  sublist : tree.outline.Sublist new.outline
  nodup : new.ids.Nodup

/-- A tree and a node are the two children of a new union. -/
structure United (tree node : Node α) (id : String) (new : Node α) : Prop where
  id_eq : new.id = id
  kind_eq : new.kind = .op .union
  children_eq : new.children = [tree, node]
  retained : tree.Retained new
  size_eq : new.size = tree.size + (node.size + 1)

/-- A node is put around another one, which becomes its only child. -/
structure Enclosed (tree goal node new : Node α) : Prop where
  substituted : tree.Substituted goal node [goal] new
  retained : tree.Retained new
  size_eq : new.size = tree.size + 1

/-- A node is made the last child of another one, and can be removed again. -/
structure Appended (tree goal node new : Node α) : Prop where
  substituted : tree.Substituted goal goal (goal.children ++ [node]) new
  delete_eq : new.delete node.id = .replaced tree
  retained : tree.Retained new
  size_eq : new.size = tree.size + node.size

lemma IsFull.isPrimitive_eq {n : Node α} (h : n.IsFull) : n.isPrimitive = false := by
  cases n with
  | primitive info body => cases h.1
  | operation info op children => rfl

/-- What goes inside the parent of a node is refused if there is no parent or it is full. -/
lemma insertInside?_parent_eq_none_iff {tree node goal : Node α} (htree : tree.ids.Nodup)
    (hgoal : goal ∈ tree.preorder) :
    ((tree.findParent? goal.id).bind fun parent => tree.insertInside? parent.id node) = none ↔
      goal = tree ∨ ∃ parent ∈ tree.preorder, goal ∈ parent.children ∧ parent.IsFull := by
  cases hfind : tree.findParent? goal.id with
  | none =>
    refine iff_of_true rfl (.inl ?_)
    obtain habsent | hroot := (findParent?_eq_none_iff htree).mp hfind
    · exact absurd (List.mem_map_of_mem hgoal) habsent
    · exact eq_of_id_eq htree hgoal tree.self_mem_preorder hroot
  | some parent =>
    obtain ⟨hparent, hchild⟩ := (findParent?_eq_some_iff_mem htree hgoal).mp hfind
    rw [Option.bind_some, insertInside?_eq_none_iff_isFull htree hparent
      (isPrimitive_of_mem_children hchild)]
    constructor
    · exact fun hfull => .inr ⟨parent, hparent, hchild, hfull⟩
    · rintro (rfl | ⟨other, hother, hchild', hfull⟩)
      · rw [(findParent?_eq_none_iff htree).mpr (.inr rfl)] at hfind
        cases hfind
      · rw [(findParent?_eq_some_iff_mem htree hgoal).mpr ⟨hother, hchild'⟩] at hfind
        exact Option.some.inj hfind ▸ hfull

section

variable {tree node : Node α} (htree : tree.ids.Nodup) (hnode : node.ids.Nodup)
  (hdisjoint : node.ids.Disjoint tree.ids)

include htree hdisjoint

lemma enclosed_of_substituted {goal new : Node α} (h : tree.Substituted goal node [goal] new) :
    tree.Enclosed goal node new := by
  obtain ⟨before, after, hbefore, hafter⟩ := h.outline_eq
  have hperm : new.outline.Perm (node.bare :: tree.outline) := by
    rw [hbefore, hafter]
    exact List.perm_middle
  refine ⟨h, ⟨?_, ?_⟩, ?_⟩
  · rw [hbefore, hafter]
    exact (List.Sublist.refl before).append (List.sublist_cons_self _ after)
  · have hids : new.ids.Perm (node.id :: tree.ids) := by
      have hmap := hperm.map id
      rw [List.map_cons, map_id_outline, map_id_outline, bare, id_mapChildren] at hmap
      exact hmap
    exact hids.nodup_iff.mpr (List.nodup_cons.mpr ⟨hdisjoint node.id_mem_ids, htree⟩)
  · rw [← length_outline, hperm.length_eq, List.length_cons, length_outline]

include hnode

lemma appended_of_insertInside? {goal new : Node α} (hgoal : goal ∈ tree.preorder)
    (hnew : tree.insertInside? goal.id node = some new) : tree.Appended goal node new := by
  obtain ⟨way, level, hgap, -, rfl, rfl⟩ := exists_gap_of_insertInside? hnew
  have hids : (plug way (level.fill node)).ids.Nodup :=
    nodup_ids_plug_fill.mpr ⟨htree, hnode, hdisjoint.symm⟩
  refine ⟨?_, delete_plug_fill (hdisjoint node.id_mem_ids),
    ⟨outline_plug_close_sublist way level node, hids⟩, size_plug_fill way level node⟩
  cases hgap with
  | @inside way info op children hid _ =>
    rw [close_last] at htree hgoal ⊢
    -- the operation that takes the node is the one that has the identifier
    obtain rfl : goal = .operation info op children :=
      eq_of_id_eq htree hgoal (mem_preorder_plug (self_mem_preorder _)) hid.symm
    exact ⟨way, .operation info op (children ++ [node]), rfl, rfl, rfl, rfl⟩

lemma exists_appended_of_acceptsChild {goal : Node α} (hgoal : goal ∈ tree.preorder)
    (haccepts : goal.acceptsChild = true) :
    ∃ new, tree.insertInside? goal.id node = some new ∧ tree.Appended goal node new := by
  cases hnew : tree.insertInside? goal.id node with
  | none =>
    have hfind := (find?_eq_some_iff htree).mpr ⟨hgoal, rfl⟩
    rw [replaceAccepting_eq_none_iff.mp hnew goal hfind] at haccepts
    cases haccepts
  | some new => exact ⟨new, rfl, appended_of_insertInside? htree hnode hdisjoint hgoal hnew⟩

variable [Scalar α]

lemma united_unite {id : String} (hidtree : id ∉ tree.ids) (hidnode : id ∉ node.ids) :
    tree.United node id (unite id tree node) := by
  refine ⟨rfl, rfl, rfl, ⟨?_, ?_⟩, ?_⟩
  · rw [outline_unite]
    exact (List.sublist_append_left _ _).trans (List.sublist_cons_self _ _)
  · rw [ids_unite, List.nodup_cons, List.mem_append, List.nodup_append']
    exact ⟨fun h => h.elim hidtree hidnode, htree, hnode, hdisjoint.symm⟩
  · rw [← length_outline, outline_unite, List.length_cons, List.length_append, length_outline,
      length_outline, Nat.add_assoc]

end

/-- Where identifiers occur once, an addition unites the tree and the node if nothing in it is
selected; a selected shape is enclosed by an operation, a selected operation with room takes the
node as its last child, and otherwise its parent does, unless there is none or it is full. -/
theorem add?_specification [Scalar α] {tree node : Node α} (htree : tree.ids.Nodup)
    (hnode : node.ids.Nodup) (hdisjoint : node.ids.Disjoint tree.ids) (selected : Option String)
    {unionId : String} (hidtree : unionId ∉ tree.ids) (hidnode : unionId ∉ node.ids) :
    ((∀ s ∈ selected, s ∉ tree.ids) →
      ∃ new, tree.add? selected node unionId = some new ∧ tree.United node unionId new) ∧
    ∀ goal ∈ tree.preorder, selected = some goal.id →
      (goal.isPrimitive = true → node.isPrimitive = false →
        ∃ new, tree.add? selected node unionId = some new ∧ tree.Enclosed goal node new) ∧
      (goal.isPrimitive = false → ¬ goal.IsFull →
        ∃ new, tree.add? selected node unionId = some new ∧ tree.Appended goal node new) ∧
      (goal.isPrimitive = true ∧ node.isPrimitive = true ∨ goal.IsFull →
        (tree.add? selected node unionId = none ↔
          goal = tree ∨ ∃ parent ∈ tree.preorder, goal ∈ parent.children ∧ parent.IsFull) ∧
        ∀ new, tree.add? selected node unionId = some new →
          ∃ parent ∈ tree.preorder, goal ∈ parent.children ∧ tree.Appended parent node new) := by
  refine ⟨fun habsent => ?_, ?_⟩
  · have hnone : selected.bind (tree.find? ·) = none :=
      Option.bind_eq_none_iff.mpr fun s hs => find?_eq_none_iff.mpr (habsent s hs)
    refine ⟨_, ?_, united_unite htree hnode hdisjoint hidtree hidnode⟩
    rw [add?, hnone]
  · rintro goal hgoal rfl
    have hfind := (find?_eq_some_iff htree).mpr ⟨hgoal, rfl⟩
    rw [add?, Option.bind_some, hfind]
    refine ⟨fun hshape hop => ?_, fun hop hroom => ?_, fun hother => ?_⟩
    · obtain ⟨new, hnew, hsub⟩ := exists_substituted_of_wrap? hfind hop
      refine ⟨new, ?_, enclosed_of_substituted htree hdisjoint hsub⟩
      simp [hshape, hop, hnew]
    · have haccepts : goal.acceptsChild = true := by
        rw [← Bool.not_eq_false, acceptsChild_eq_false_iff, hop]
        exact fun h => h.elim (fun h => Bool.false_ne_true h) hroom
      obtain ⟨new, hnew, happended⟩ :=
        exists_appended_of_acceptsChild htree hnode hdisjoint hgoal haccepts
      refine ⟨new, ?_, happended⟩
      simp [hop, haccepts, hnew]
    · have hrefuses : goal.acceptsChild = false :=
        acceptsChild_eq_false_iff.mpr (hother.imp_left And.left)
      have hplain : ¬ (goal.isPrimitive = true ∧ ¬ node.isPrimitive = true) := by
        rintro ⟨hshape, hop⟩
        obtain hboth | hfull := hother
        · exact hop hboth.2
        · exact Bool.eq_false_iff.mp hfull.isPrimitive_eq hshape
      simp only [if_neg hplain, hrefuses, Bool.false_eq_true, if_false]
      refine ⟨insertInside?_parent_eq_none_iff htree hgoal, fun new hnew => ?_⟩
      obtain ⟨parent, hparent, hinside⟩ := Option.bind_eq_some_iff.mp hnew
      obtain ⟨hmem, hchild⟩ := (findParent?_eq_some_iff_mem htree hgoal).mp hparent
      exact ⟨parent, hmem, hchild, appended_of_insertInside? htree hnode hdisjoint hmem hinside⟩

/-- A disc that is displaced by another one. -/
def displacedDisc : Node Float32 :=
  .combine "d" .displace [.circle "a" .zero 1.0, .circle "b" .zero 1.0]

/-- A displaced disc in a group. -/
def groupedDisplace : Node Float32 := .combine "g" .group [displacedDisc]

/-- Beside the base of a displacement there is no room for another disc. If the displacement itself
is selected, the disc goes into the group. -/
theorem add?_groupedDisplace :
    groupedDisplace.ids.Nodup ∧
    groupedDisplace.add? (some "a") (.circle "n" .zero 1.0) "u" = none ∧
    ∃ new, groupedDisplace.add? (some "d") (.circle "n" .zero 1.0) "u" = some new ∧
      ∃ parent ∈ groupedDisplace.preorder, displacedDisc ∈ parent.children ∧
        groupedDisplace.Appended parent (.circle "n" .zero 1.0) new := by
  have hids : groupedDisplace.ids.Nodup := by decide
  have hnode : (Node.circle "n" .zero 1.0 : Node Float32).ids.Nodup := List.nodup_singleton "n"
  have hdisjoint : (Node.circle "n" .zero 1.0 : Node Float32).ids.Disjoint groupedDisplace.ids :=
    List.singleton_disjoint.mpr (by decide)
  have hspec := fun selected => (add?_specification hids hnode hdisjoint selected
    (show "u" ∉ groupedDisplace.ids by decide)
    (show "u" ∉ (Node.circle "n" .zero 1.0 : Node Float32).ids by decide)).2
  have hdisplaced : displacedDisc ∈ groupedDisplace.preorder := .tail _ (.head _)
  have hbase : Node.circle "a" .zero 1.0 ∈ groupedDisplace.preorder :=
    .tail _ (.tail _ (.head _))
  have hfull : displacedDisc.IsFull := ⟨rfl, Nat.le_refl 2⟩
  refine ⟨hids, ?_, _, rfl, ?_⟩
  · exact (((hspec (some "a")) _ hbase rfl).2.2 (.inl ⟨rfl, rfl⟩)).1.mpr
      (.inr ⟨displacedDisc, hdisplaced, .head _, hfull⟩)
  · exact (((hspec (some "d")) _ hdisplaced rfl).2.2 (.inr hfull)).2 _ rfl

end DistanceField.Node
