import Mathlib
import DistanceField.Proofs.Node.Context

/-!
# Outlines

The outline of a tree lists its nodes in preorder, each without its children: what every node
carries, and in which order, but not how the nodes are nested.

A hole cuts an outline in two, and what is put into the hole comes in between. So does a hole that
is closed, where the operation around it is left with one child less.
-/

namespace DistanceField

variable {α : Type}

namespace Node

/-- The node without its children. -/
def bare (n : Node α) : Node α := n.mapChildren fun _ => []

/-- The nodes of a tree in preorder, each without its children. -/
def outline (n : Node α) : List (Node α) := n.preorder.map bare

lemma outline_eq (n : Node α) : n.outline = n.bare :: n.children.flatMap outline := by
  rw [outline, preorder_eq, List.map_cons, List.map_flatMap]
  rfl

lemma id_mapChildren (f : List (Node α) → List (Node α)) (n : Node α) :
    (n.mapChildren f).id = n.id := by
  cases n <;> rfl

lemma bare_mapChildren (f : List (Node α) → List (Node α)) (n : Node α) :
    (n.mapChildren f).bare = n.bare := by
  cases n <;> rfl

lemma map_id_outline (n : Node α) : n.outline.map id = n.ids := by
  rw [outline, List.map_map]
  exact List.map_congr_left fun m _ => id_mapChildren _ m

lemma length_outline (n : Node α) : n.outline.length = n.size := List.length_map _

/-- A shape is all there is to it. -/
lemma eq_of_bare_eq {m n : Node α} (h : m.bare = n.bare) (hn : n.isPrimitive = true) : m = n := by
  cases n with
  | operation info op children => cases hn
  | primitive info body =>
    cases m with
    | primitive info' body' => exact h
    | operation info' op children => cases h

end Node

/-! ### Closing a hole -/

namespace Level

/-- The operation at a level without any children. -/
def bare (level : Level α) : Node α := .operation level.info level.op []

/-- The operation at a level with the children beside the way only. -/
def close (level : Level α) : Node α :=
  .operation level.info level.op (level.before ++ level.after)

end Level

namespace Node

lemma plug_concat (way : List (Level α)) (level : Level α) (n : Node α) :
    plug (way ++ [level]) n = plug way (level.fill n) :=
  List.foldr_append

/-- A node other than the root stands in a hole of its parent. -/
lemma exists_plug_fill_of_mem {tree n : Node α} (h : n ∈ tree.preorder) (hne : n ≠ tree) :
    ∃ (way : List (Level α)) (level : Level α), tree = plug way (level.fill n) := by
  obtain ⟨way, rfl⟩ := exists_plug_of_mem h
  obtain rfl | ⟨way, level, rfl⟩ := List.eq_nil_or_concat' way
  · exact absurd rfl hne
  · exact ⟨way, level, plug_concat way level n⟩

lemma id_plug {way : List (Level α)} {m n : Node α} (h : m.id = n.id) :
    (plug way m).id = (plug way n).id := by
  cases way with
  | nil => exact h
  | cons level way => rfl

lemma ids_fill (level : Level α) (n : Node α) :
    (level.fill n).ids
      = level.info.id :: (level.before.flatMap ids ++ (n.ids ++ level.after.flatMap ids)) := by
  rw [ids_eq, Level.fill, children_operation, List.flatMap_append, List.flatMap_cons]
  rfl

lemma ids_close (level : Level α) :
    level.close.ids
      = level.info.id :: (level.before.flatMap ids ++ level.after.flatMap ids) := by
  rw [ids_eq, Level.close, children_operation, List.flatMap_append]
  rfl

/-! ### The outline around a hole -/

/-- The part of the outline before a hole. -/
def outlineBefore (way : List (Level α)) : List (Node α) :=
  way.flatMap fun level => level.bare :: level.before.flatMap outline

/-- The part of the outline after a hole. -/
def outlineAfter (way : List (Level α)) : List (Node α) := (following way).map bare

lemma map_bare_passed (way : List (Level α)) (n : Node α) :
    (passed way n).map bare = outlineBefore way := by
  induction way with
  | nil => rfl
  | cons level way ih =>
    rw [passed, List.map_append, List.map_cons, List.map_flatMap, ih]
    rfl

lemma outline_plug (way : List (Level α)) (n : Node α) :
    (plug way n).outline = outlineBefore way ++ n.outline ++ outlineAfter way := by
  rw [outline, preorder_plug, List.map_append, List.map_append, map_bare_passed]
  rfl

/-- The identifiers around a hole do not depend on what fills it. -/
lemma ids_plug (way : List (Level α)) (m n : Node α) :
    (plug way n).ids = (passed way m).map id ++ n.ids ++ (following way).map id := by
  have hbare : ∀ ns : List (Node α), ns.map id = (ns.map bare).map id := fun ns => by
    rw [List.map_map]
    exact List.map_congr_left fun k _ => (id_mapChildren _ k).symm
  rw [ids, preorder_plug, List.map_append, List.map_append, hbare (passed way n),
    hbare (passed way m), map_bare_passed, map_bare_passed]
  rfl

lemma outlineBefore_concat (way : List (Level α)) (level : Level α) :
    outlineBefore (way ++ [level])
      = outlineBefore way ++ level.bare :: level.before.flatMap outline := by
  rw [outlineBefore, List.flatMap_append, List.flatMap_singleton]
  rfl

lemma outlineAfter_concat (way : List (Level α)) (level : Level α) :
    outlineAfter (way ++ [level]) = level.after.flatMap outline ++ outlineAfter way := by
  induction way with
  | nil =>
    rw [List.nil_append, outlineAfter, following, following, List.nil_append, List.map_flatMap]
    exact (List.append_nil _).symm
  | cons first way ih =>
    rw [outlineAfter, outlineAfter, List.cons_append, following, following, List.map_append,
      List.map_append, ← List.append_assoc]
    exact congrArg (· ++ _) ih

/-- What is put into a hole comes in between two parts of the outline. -/
lemma outline_plug_fill (way : List (Level α)) (level : Level α) (n : Node α) :
    (plug way (level.fill n)).outline
      = outlineBefore (way ++ [level]) ++ n.outline ++ outlineAfter (way ++ [level]) := by
  rw [← plug_concat, outline_plug]

/-- Nothing comes in between where the hole is closed. -/
lemma outline_plug_close (way : List (Level α)) (level : Level α) :
    (plug way level.close).outline
      = outlineBefore (way ++ [level]) ++ outlineAfter (way ++ [level]) := by
  have hclose : level.close.outline
      = level.bare :: (level.before.flatMap outline ++ level.after.flatMap outline) := by
    rw [outline_eq, Level.close, children_operation, List.flatMap_append]
    rfl
  rw [outline_plug, hclose, outlineBefore_concat, outlineAfter_concat]
  simp only [List.append_assoc, List.cons_append]

lemma outline_plug_close_sublist (way : List (Level α)) (level : Level α) (n : Node α) :
    (plug way level.close).outline.Sublist (plug way (level.fill n)).outline := by
  rw [outline_plug_close, outline_plug_fill]
  exact (List.sublist_append_left _ _).append (List.Sublist.refl _)

lemma outline_plug_fill_perm (way : List (Level α)) (level : Level α) (n : Node α) :
    (plug way (level.fill n)).outline.Perm ((plug way level.close).outline ++ n.outline) := by
  rw [outline_plug_close, outline_plug_fill, List.append_assoc, List.append_assoc]
  exact List.Perm.append_left _ List.perm_append_comm

/-- The identifiers of a tree are those of the node in a hole and those that are left when it is
closed. -/
lemma ids_plug_fill_perm (way : List (Level α)) (level : Level α) (n : Node α) :
    (plug way (level.fill n)).ids.Perm ((plug way level.close).ids ++ n.ids) := by
  have hperm := (outline_plug_fill_perm way level n).map id
  rw [List.map_append] at hperm
  simpa only [map_id_outline] using hperm

/-- Identifiers occur once around and in a filled hole if they do so around it, in it, and do not
occur on both sides. -/
lemma nodup_ids_plug_fill {way : List (Level α)} {level : Level α} {n : Node α} :
    (plug way (level.fill n)).ids.Nodup ↔ (plug way level.close).ids.Nodup ∧ n.ids.Nodup ∧
      (plug way level.close).ids.Disjoint n.ids := by
  rw [(ids_plug_fill_perm way level n).nodup_iff, List.nodup_append']

lemma id_notMem_ids_close {way : List (Level α)} {level : Level α} {n : Node α}
    (h : (plug way (level.fill n)).ids.Nodup) : n.id ∉ (plug way level.close).ids :=
  fun hmem => (nodup_ids_plug_fill.mp h).2.2 hmem n.id_mem_ids

lemma size_plug_fill (way : List (Level α)) (level : Level α) (n : Node α) :
    (plug way (level.fill n)).size = (plug way level.close).size + n.size := by
  simp only [← length_outline]
  rw [(outline_plug_fill_perm way level n).length_eq, List.length_append]

/-! ### United trees -/

lemma outline_unite [Scalar α] (id : String) (a b : Node α) :
    (unite id a b).outline = (unite id a b).bare :: (a.outline ++ b.outline) := by
  rw [outline_eq]
  exact congrArg (_ :: a.outline ++ ·) (List.append_nil _)

lemma ids_unite [Scalar α] (id : String) (a b : Node α) :
    (unite id a b).ids = id :: (a.ids ++ b.ids) := by
  rw [← map_id_outline, outline_unite, List.map_cons, List.map_append, map_id_outline,
    map_id_outline]
  rfl

end Node

end DistanceField
