import Mathlib
import DistanceField.Proofs.Node.Context

/-!
# Well-formed trees

A tree is well formed if its displacements are within their limit and its identifiers are there and
occur once. The limit is a condition on the nodes of a tree one by one, each with the number of its
children; the rest is a condition on the list of identifiers alone.

The limit of a filled hole splits into that of the levels around it and that of the node in it, so
the node can be changed for another one without a look at the rest of the tree. The identifiers of
the new tree then only have to come from the old one and from a list that it can be given.
-/

namespace DistanceField

variable {α : Type}

namespace Node

/-- No displacement in a tree has more than a base and a source. -/
def WithinLimit (tree : Node α) : Prop :=
  ∀ n ∈ tree.preorder, n.kind = .op .displace → n.children.length ≤ displaceLimit

instance (tree : Node α) : Decidable tree.WithinLimit :=
  inferInstanceAs (Decidable (∀ n ∈ tree.preorder, n.kind = .op .displace →
    n.children.length ≤ displaceLimit))

/-- Displacements are within their limit, no identifier is empty and none occurs twice. -/
structure WellFormed (tree : Node α) : Prop where
  withinLimit : tree.WithinLimit
  id_ne : "" ∉ tree.ids
  nodup : tree.ids.Nodup

/-! ### The limit of displacements -/

lemma withinLimit_iff {n : Node α} :
    n.WithinLimit ↔ (n.kind = .op .displace → n.children.length ≤ displaceLimit) ∧
      ∀ c ∈ n.children, c.WithinLimit := by
  rw [WithinLimit, preorder_eq, List.forall_mem_cons]
  refine and_congr_right fun _ => ⟨fun h c hc m hm => ?_, fun h m hm => ?_⟩
  · exact h m (List.mem_flatMap.mpr ⟨c, hc, hm⟩)
  · obtain ⟨c, hc, hm⟩ := List.mem_flatMap.mp hm
    exact h c hc m hm

lemma withinLimit_operation_iff {info : Info} {op : Operator α} {children : List (Node α)} :
    (Node.operation info op children).WithinLimit
      ↔ (op.kind = .displace → children.length ≤ displaceLimit) ∧
        ∀ c ∈ children, c.WithinLimit := by
  rw [withinLimit_iff, ← Kind.op.injEq]
  rfl

lemma WithinLimit.of_mem {tree n : Node α} (h : tree.WithinLimit) (hn : n ∈ tree.preorder) :
    n.WithinLimit :=
  fun m hm => h m ((preorder_sublist hn).subset hm)

end Node

/-- A level with nothing over the limit around the hole, where one more child is to come. -/
structure Level.WithinLimit (level : Level α) : Prop where
  arity_le : level.op.kind = .displace →
    level.before.length + (level.after.length + 1) ≤ displaceLimit
  siblings : ∀ c ∈ level.before ++ level.after, c.WithinLimit

namespace Node

lemma withinLimit_fill_iff {level : Level α} {n : Node α} :
    (level.fill n).WithinLimit ↔ level.WithinLimit ∧ n.WithinLimit := by
  rw [Level.fill, withinLimit_operation_iff, List.length_append, List.length_cons]
  simp only [List.forall_mem_append, List.forall_mem_cons]
  constructor
  · rintro ⟨harity, hbefore, hn, hafter⟩
    exact ⟨⟨harity, List.forall_mem_append.mpr ⟨hbefore, hafter⟩⟩, hn⟩
  · rintro ⟨⟨harity, hsiblings⟩, hn⟩
    obtain ⟨hbefore, hafter⟩ := List.forall_mem_append.mp hsiblings
    exact ⟨harity, hbefore, hn, hafter⟩

/-- Around a hole nothing is counted that depends on what fills it. -/
lemma withinLimit_plug_iff {way : List (Level α)} {n : Node α} :
    (plug way n).WithinLimit ↔ (∀ level ∈ way, level.WithinLimit) ∧ n.WithinLimit := by
  induction way with
  | nil => exact ⟨fun h => ⟨fun _ hl => absurd hl List.not_mem_nil, h⟩, fun h => h.2⟩
  | cons level way ih => rw [plug_cons, withinLimit_fill_iff, ih, List.forall_mem_cons, and_assoc]

lemma WithinLimit.of_plug {way : List (Level α)} {n : Node α} (h : (plug way n).WithinLimit) :
    n.WithinLimit :=
  (withinLimit_plug_iff.mp h).2

lemma WithinLimit.replace {way : List (Level α)} {n new : Node α} (h : (plug way n).WithinLimit)
    (hnew : new.WithinLimit) : (plug way new).WithinLimit :=
  withinLimit_plug_iff.mpr ⟨(withinLimit_plug_iff.mp h).1, hnew⟩

/-! ### Identifiers -/

/-- Identifiers that can be given to nodes that come into a tree. -/
structure Fresh (tree : Node α) (extra : List String) : Prop where
  id_ne : "" ∉ extra
  nodup : extra.Nodup
  disjoint : extra.Disjoint tree.ids

lemma fresh_nil (tree : Node α) : tree.Fresh [] :=
  ⟨List.not_mem_nil, List.nodup_nil, List.disjoint_nil_left _⟩

lemma fresh_singleton {tree : Node α} {id : String} (hid : id ≠ "") (hmem : id ∉ tree.ids) :
    tree.Fresh [id] :=
  ⟨fun h => hid (List.mem_singleton.mp h).symm, List.nodup_singleton id,
    List.singleton_disjoint.mpr hmem⟩

lemma WellFormed.fresh {tree n : Node α} (h : n.WellFormed) (hdisjoint : n.ids.Disjoint tree.ids) :
    tree.Fresh n.ids :=
  ⟨h.id_ne, h.nodup, hdisjoint⟩

lemma nodup_of_subperm {β : Type} {as bs : List β} (h : as.Subperm bs) (hbs : bs.Nodup) :
    as.Nodup := by
  obtain ⟨l, hperm, hsublist⟩ := h
  exact hperm.nodup_iff.mp (hsublist.nodup hbs)

/-- A tree within the limit is well formed if its identifiers are some of those of a well-formed
tree and of fresh ones. -/
lemma WellFormed.of_subperm {tree new : Node α} {extra : List String} (h : tree.WellFormed)
    (hlimit : new.WithinLimit) (hextra : tree.Fresh extra)
    (hids : new.ids.Subperm (tree.ids ++ extra)) : new.WellFormed := by
  refine ⟨hlimit, fun hmem => ?_, nodup_of_subperm hids ?_⟩
  · exact (List.mem_append.mp (hids.subset hmem)).elim h.id_ne hextra.id_ne
  · exact List.nodup_append'.mpr ⟨h.nodup, hextra.nodup, hextra.disjoint.symm⟩

lemma WellFormed.root_id_ne {tree : Node α} (h : tree.WellFormed) : tree.id ≠ "" :=
  fun hid => h.id_ne (hid ▸ tree.id_mem_ids)

lemma WellFormed.of_mem {tree n : Node α} (h : tree.WellFormed) (hn : n ∈ tree.preorder) :
    n.WellFormed := by
  refine h.of_subperm (h.withinLimit.of_mem hn) tree.fresh_nil ?_
  rw [List.append_nil]
  exact (ids_sublist hn).subperm

/-- The node in a hole can be changed for a node within the limit whose identifiers are some of
those of the old one and of fresh ones. -/
lemma WellFormed.replace {way : List (Level α)} {n new : Node α} {extra : List String}
    (h : (plug way n).WellFormed) (hlimit : new.WithinLimit) (hextra : (plug way n).Fresh extra)
    (hids : new.ids.Subperm (n.ids ++ extra)) : (plug way new).WellFormed := by
  refine h.of_subperm (h.withinLimit.replace hlimit) hextra ?_
  -- only the identifiers matter here, so both sides are taken apart up to their order
  refine (ids_plug_perm way new).subperm.trans ?_
  refine List.Subperm.trans ?_ ((ids_plug_perm way n).append_right extra).symm.subperm
  rw [List.append_assoc]
  exact (List.subperm_append_left _).mpr hids

end Node

end DistanceField
