import Mathlib
import DistanceField.Flat.Canonical
import DistanceField.Proofs.Edit.Rejection
import DistanceField.Proofs.Node.Essence

/-!
# Unfolding the way to a node

To show a node, an editor unfolds the nodes above it. The edit looks for the first node with an
identifier and takes its own way back to the root, so it has to be said that the way is the one to
that node and that all siblings return to their places. Only flags of nodes on the way are cleared:
the tree keeps its essence, and with it everything that is computed from a tree.
-/

namespace DistanceField

variable {α : Type}

namespace Node

/-- The tree after the nodes above a node are unfolded; where the identifier is missing it stays as
it is. -/
def expandAncestors (tree : Node α) (id : String) : Node α :=
  (tree.expandAncestors? id).getD tree

/-! ### The way that is unfolded -/

lemma expandIn?_append {id : String} {before : List (Node α)} {c new : Node α}
    (after : List (Node α)) (hbefore : id ∉ before.flatMap ids)
    (hc : c.expandTo? id = some new) :
    expandIn? id (before ++ c :: after) = some (before ++ new :: after) := by
  induction before with
  | nil => simp [expandIn?, hc]
  | cons b rest ih =>
    rw [List.flatMap_cons, List.mem_append, not_or] at hbefore
    obtain ⟨hb, hrest⟩ := hbefore
    simp [expandIn?, expandTo?_eq_none_iff.mpr hb, ih hrest]

/-- The way to the first node with an identifier is unfolded, and what it leads to stays. -/
lemma FirstIn.expandTo?_plug {way : List (Level α)} {n : Node α} (h : FirstIn way n) :
    (plug way n).expandTo? n.id = some (plug (way.map Level.unfold) n) := by
  induction way with
  | nil => cases n <;> exact if_pos rfl
  | cons level way ih =>
    obtain ⟨hroot, hbefore, hway⟩ := firstIn_cons.mp h
    rw [plug_cons, Level.fill, expandTo?, if_neg hroot,
      expandIn?_append level.after hbefore (ih hway)]
    rfl

lemma FirstIn.expandAncestors_plug {way : List (Level α)} {n : Node α} (h : FirstIn way n) :
    (plug way n).expandAncestors n.id = plug (way.map Level.unfold) n := by
  rw [expandAncestors, expandAncestors?, h.expandTo?_plug]
  cases way with
  | nil => simp [plug]
  | cons level way =>
    have hroot : (plug (level :: way) n).id ≠ n.id := (firstIn_cons.mp h).1
    rw [if_neg hroot, Option.getD_some]

/-- Unfolding changes no identifier, so the way stays the one to the first node that has it. -/
lemma firstIn_map_unfold {way : List (Level α)} {n : Node α} :
    FirstIn (way.map Level.unfold) n ↔ FirstIn way n := by
  induction way with
  | nil => rfl
  | cons level way ih =>
    rw [List.map_cons, firstIn_cons, firstIn_cons, ih]
    rfl

lemma essence_plug_unfold (way : List (Level α)) (n : Node α) :
    (plug (way.map Level.unfold) n).essence = (plug way n).essence := by
  induction way with
  | nil => rfl
  | cons level way ih =>
    simp only [List.map_cons, plug_cons, Level.fill, Level.unfold, essence_operation,
      List.map_append, ih]

lemma exists_firstIn_of_mem {tree : Node α} {id : String} (h : id ∈ tree.ids) :
    ∃ way n, tree.find? id = some n ∧ tree = plug way n ∧ n.id = id ∧ FirstIn way n := by
  cases hfind : tree.find? id with
  | none => exact absurd h (find?_eq_none_iff.mp hfind)
  | some n =>
    obtain ⟨way, htree, hid, hfirst⟩ := exists_firstIn_of_find? hfind
    exact ⟨way, n, rfl, htree, hid, hfirst⟩

/-! ### What is computed from the tree -/

lemma essence_expandAncestors {tree : Node α} {id : String} (h : id ∈ tree.ids) :
    (tree.expandAncestors id).essence = tree.essence := by
  obtain ⟨way, n, -, rfl, rfl, hfirst⟩ := exists_firstIn_of_mem h
  rw [hfirst.expandAncestors_plug, essence_plug_unfold]

lemma expandAncestors_expandAncestors {tree : Node α} {id : String} (h : id ∈ tree.ids) :
    (tree.expandAncestors id).expandAncestors id = tree.expandAncestors id := by
  obtain ⟨way, n, -, rfl, rfl, hfirst⟩ := exists_firstIn_of_mem h
  rw [hfirst.expandAncestors_plug, (firstIn_map_unfold.mpr hfirst).expandAncestors_plug,
    List.map_map]
  rfl

/-- Two trees that the flat form, the shader program in every style, the field and the check do not
tell apart. -/
structure Alike [Scalar α] [JsonScalar α] (s t : Node α) : Prop where
  canonical_eq : (Flat.ofScene (some s)).canonical = (Flat.ofScene (some t)).canonical
  program_eq : ∀ style,
    Shader.Program.ofScene style (some s) = Shader.Program.ofScene style (some t)
  field_eq : ∀ p, Field.eval (some s) p = Field.eval (some t) p
  validate_eq : s.validate = t.validate

lemma alike_of_essence_eq [Scalar α] [JsonScalar α] {s t : Node α} (h : s.essence = t.essence) :
    Alike s t := by
  have hscene : (some s).map essence = (some t).map essence := congrArg some h
  constructor
  · rw [← ofScene_map_essence (some s), hscene, ofScene_map_essence]
  · intro style
    rw [← program_map_essence style (some s), hscene, program_map_essence]
  · intro p
    rw [← eval_map_essence (some s), hscene, eval_map_essence]
  · rw [← validate_essence s, h, validate_essence]

/-- Showing a node clears the flags of the nodes on the way to it, the first one with its
identifier, and changes nothing else. Doing it again changes nothing at all, and nothing that is
computed from the tree can tell the difference. -/
theorem expandAncestors_specification [Scalar α] [JsonScalar α] {tree : Node α} {id : String}
    (h : id ∈ tree.ids) :
    (∃ way n, tree.find? id = some n ∧ tree = plug way n ∧ n.id = id ∧ FirstIn way n ∧
      tree.expandAncestors id = plug (way.map Level.unfold) n) ∧
    (tree.expandAncestors id).expandAncestors id = tree.expandAncestors id ∧
    Alike (tree.expandAncestors id) tree := by
  refine ⟨?_, expandAncestors_expandAncestors h, alike_of_essence_eq (essence_expandAncestors h)⟩
  obtain ⟨way, n, hfind, rfl, rfl, hfirst⟩ := exists_firstIn_of_mem h
  exact ⟨way, n, hfind, rfl, rfl, hfirst, hfirst.expandAncestors_plug⟩

/-- Two groups with discs that have one identifier, everything folded. -/
def foldedTwins : Node Float32 :=
  let disc := (circle "a" .zero 1.0).withCollapsed true
  (combine "u" .union [(combine "g" .group [disc]).withCollapsed true,
    (combine "h" .group [disc]).withCollapsed true]).withCollapsed true

/-- The root and the first group are unfolded; the disc itself and the second group are not. -/
theorem expandAncestors_foldedTwins :
    "a" ∈ foldedTwins.ids ∧
    (foldedTwins.expandAncestors "a").preorder.map (fun n => (n.id, n.info.collapsed))
      = [("u", false), ("g", false), ("a", true), ("h", true), ("a", true)] ∧
    (foldedTwins.expandAncestors "a").expandAncestors "a" = foldedTwins.expandAncestors "a" ∧
    Alike (foldedTwins.expandAncestors "a") foldedTwins := by
  have hmem : "a" ∈ foldedTwins.ids := by decide
  obtain ⟨-, hagain, halike⟩ := expandAncestors_specification hmem
  exact ⟨hmem, by decide, hagain, halike⟩

end Node

end DistanceField
