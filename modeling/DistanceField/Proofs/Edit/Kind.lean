import Mathlib
import DistanceField.Proofs.Edit.Validity

/-!
# Changes of kind

A change of kind keeps the children of an operation, and it is not refused on their account. The
other edits look at the limit of a displacement before they give it a child; here the children are
there already, and the operation becomes a displacement around them. So an accepted tree stays
accepted exactly if no more children than a base and a source end up in a displacement.
-/

namespace DistanceField.Node

variable {α : Type}

/-! ### The changed operation -/

lemma id_withKind (kind : OpKind) (n : Node α) : (n.withKind kind).id = n.id := by
  cases n <;> rfl

lemma children_withKind (kind : OpKind) (n : Node α) :
    (n.withKind kind).children = n.children := by
  cases n <;> rfl

lemma kind_withKind (kind : OpKind) {n : Node α} (h : n.isPrimitive = false) :
    (n.withKind kind).kind = .op kind := by
  cases n with
  | primitive info body => cases h
  | operation info op children => rfl

lemma ids_withKind (kind : OpKind) (n : Node α) : (n.withKind kind).ids = n.ids := by
  rw [ids_eq, ids_eq n, id_withKind, children_withKind]

/-- The operation is within the limit after the change if its children are within that of the new
kind. -/
lemma WithinLimit.withKind_iff {n : Node α} (h : n.WithinLimit) {kind : OpKind}
    (hop : n.isPrimitive = false) :
    (n.withKind kind).WithinLimit ↔ (kind = .displace → n.children.length ≤ displaceLimit) := by
  rw [withinLimit_iff, kind_withKind kind hop, Kind.op.injEq, children_withKind]
  exact and_iff_left (withinLimit_iff.mp h).2

lemma WellFormed.withKind_iff {way : List (Level α)} {n : Node α} (h : (plug way n).WellFormed)
    {kind : OpKind} (hop : n.isPrimitive = false) :
    (plug way (n.withKind kind)).WellFormed
      ↔ (kind = .displace → n.children.length ≤ displaceLimit) := by
  rw [← h.withinLimit.of_plug.withKind_iff hop]
  refine ⟨fun hnew => hnew.withinLimit.of_plug, fun hlimit => ?_⟩
  refine h.replace hlimit (fresh_nil _) ?_
  rw [List.append_nil, ids_withKind]

/-! ### The change -/

/-- A change of kind is refused only where there is no operation to change. -/
lemma setKind?_eq_none_iff {tree : Node α} {id : String} {kind : OpKind} :
    tree.setKind? id kind = none ↔ ∀ n ∈ tree.find? id, n.isPrimitive = true := by
  rw [setKind?]
  cases hfind : tree.find? id with
  | none => exact iff_of_true rfl nofun
  | some n =>
    obtain ⟨way, -, hreplace⟩ := exists_plug_of_findFirst? hfind
    cases hop : n.isPrimitive with
    | true => simp [hop]
    | false => simp [hop, update?, hreplace]

/-- A change of kind leaves an accepted tree accepted exactly if it makes no displacement of more
children than a displacement uses. -/
theorem validate_setKind?_iff {tree : Node α} (h : tree.validate = .ok ()) (id : String)
    (kind : OpKind) :
    ((tree.setKind? id kind).getD tree).validate = .ok () ↔
      ∀ n ∈ tree.find? id, kind = .displace → n.children.length ≤ displaceLimit := by
  rw [validate_eq_ok_iff] at h ⊢
  cases hnew : tree.setKind? id kind with
  | none =>
    refine iff_of_true h fun n hn _ => ?_
    cases n with
    | primitive info body => exact Nat.zero_le _
    | operation info op children => cases setKind?_eq_none_iff.mp hnew _ hn
  | some new =>
    rw [setKind?] at hnew
    split_ifs at hnew with hany
    obtain ⟨way, n, hfind, rfl, rfl⟩ := exists_plug_of_replaceFirst? hnew
    rw [find?, hfind, Option.any_some, Bool.not_eq_true'] at hany
    rw [Option.getD_some, h.withKind_iff hany, find?, hfind]
    simp only [Option.mem_some_iff, forall_eq']

/-- Three discs in a union. -/
def threeDiscs : Node Float32 :=
  .combine "u" .union [.circle "a" .zero 1.0, .circle "b" .zero 1.0, .circle "c" .zero 1.0]

/-- The union can become an intersection, but not a displacement. -/
theorem validate_setKind?_threeDiscs_iff :
    threeDiscs.validate = .ok () ∧
    ((threeDiscs.setKind? "u" .intersect).getD threeDiscs).validate = .ok () ∧
    ¬ ((threeDiscs.setKind? "u" .displace).getD threeDiscs).validate = .ok () := by
  have h : threeDiscs.validate = .ok () := rfl
  refine ⟨h, (validate_setKind?_iff h "u" .intersect).mpr nofun, fun hdisplace => ?_⟩
  have hlimit := (validate_setKind?_iff h "u" .displace).mp hdisplace threeDiscs rfl rfl
  exact absurd hlimit (by decide)

/-- A union of three discs is accepted, and it is turned into a displacement that is not. -/
theorem validate_setKind?_threeDiscs :
    threeDiscs.validate = .ok () ∧
    ((threeDiscs.setKind? "u" .displace).getD threeDiscs).validate
      = .error (.displaceOverflow "u" 3) :=
  ⟨rfl, rfl⟩

end DistanceField.Node
