import Mathlib
import DistanceField.Node.Build
import DistanceField.Proofs.Field.Smooth
import DistanceField.Proofs.Node.Context

/-!
# Siblings in another order

Where numbers are ordered and nothing is rounded, a fold by `min`, by `max` or by exclusive unions
does not depend on the order of the children, and neither does a cut on the order of the cutters.

This needs an argument for exclusive unions only. Of a number and its negation one is not below the
other, and negating one of two distances negates their exclusive union. So it is enough to look at
distances that are not below their negation, and the exclusive union of these is their minimum.

An operation that has the same distance at every point can be exchanged for another one anywhere in
a tree, so the distance of the whole tree does not change either.
-/

namespace DistanceField

/-- Scalars in a linear order that negation turns around. Nothing is asked of the other operations,
nor of infinity. -/
class LinearScalar (α : Type) [Scalar α] [LinearOrder α] : Prop where
  min_eq (x y : α) : Scalar.min x y = min x y
  max_eq (x y : α) : Scalar.max x y = max x y
  neg_neg (x : α) : - -x = x
  neg_antitone : Antitone (Neg.neg : α → α)

instance [RationalGaps] : LinearScalar ℚ where
  min_eq _ _ := rfl
  max_eq _ _ := rfl
  neg_neg := neg_neg
  neg_antitone _ _ := neg_le_neg

variable {α : Type} [Scalar α]

/-! ### Exclusive unions -/

namespace Blend

variable [LinearOrder α] [LinearScalar α] {a b : α}

open LinearScalar (neg_antitone)

lemma exclusive_eq (a b : α) : exclusive a b = max (min a b) (min (-a) (-b)) := by
  rw [exclusive, LinearScalar.max_eq, LinearScalar.max_eq, LinearScalar.min_eq,
    neg_antitone.map_max]

lemma exclusive_comm (a b : α) : exclusive a b = exclusive b a := by
  rw [exclusive_eq, exclusive_eq, min_comm a, min_comm (-a)]

/-- Negating one of two distances exchanges inside and outside. -/
lemma exclusive_neg_left (a b : α) : exclusive (-a) b = -exclusive a b := by
  rw [exclusive_eq, exclusive_eq, neg_antitone.map_max, neg_antitone.map_min,
    neg_antitone.map_min, LinearScalar.neg_neg, LinearScalar.neg_neg]
  -- the order of the four numbers follows from how `a` compares to `b` and to its negation
  rcases le_total a b with h | h <;> rcases le_total a (-b) with h' | h'
  all_goals
    have hneg := neg_antitone h
    have hneg' := neg_antitone h'
    rw [LinearScalar.neg_neg] at hneg'
    simp [h, h', hneg, hneg']

lemma exclusive_neg_right (a b : α) : exclusive a (-b) = -exclusive a b := by
  rw [exclusive_comm, exclusive_neg_left, exclusive_comm]

lemma exclusive_of_neg_le (ha : -a ≤ a) (hb : -b ≤ b) : exclusive a b = min a b := by
  rw [exclusive_eq]
  exact max_eq_left (min_le_min ha hb)

omit [LinearScalar α] in
lemma neg_min_le (ha : -a ≤ a) (hb : -b ≤ b) : -min a b ≤ min a b := by
  rcases min_choice a b with h | h <;> rw [h]
  · exact ha
  · exact hb

/-- Every number is one that is not below its negation, or the negation of such a number. -/
lemma exists_neg_le (a : α) : ∃ b, -b ≤ b ∧ (a = b ∨ a = -b) := by
  rcases le_total (-a) a with h | h
  · exact ⟨a, h, .inl rfl⟩
  · refine ⟨-a, ?_, .inr (LinearScalar.neg_neg a).symm⟩
    rw [LinearScalar.neg_neg]
    exact h

lemma exclusive_assoc (a b c : α) :
    exclusive (exclusive a b) c = exclusive a (exclusive b c) := by
  obtain ⟨x, hx, ha⟩ := exists_neg_le a
  obtain ⟨y, hy, hb⟩ := exists_neg_le b
  obtain ⟨z, hz, hc⟩ := exists_neg_le c
  have hxyz : exclusive (exclusive x y) z = exclusive x (exclusive y z) := by
    rw [exclusive_of_neg_le hx hy, exclusive_of_neg_le hy hz,
      exclusive_of_neg_le (neg_min_le hx hy) hz, exclusive_of_neg_le hx (neg_min_le hy hz),
      min_assoc]
  rcases ha with rfl | rfl <;> rcases hb with rfl | rfl <;> rcases hc with rfl | rfl <;>
    simp only [exclusive_neg_left, exclusive_neg_right, hxyz]

instance : Std.Commutative (exclusive : α → α → α) := ⟨exclusive_comm⟩

instance : Std.Associative (exclusive : α → α → α) := ⟨exclusive_assoc⟩

end Blend

/-! ### Folds -/

namespace Fold

/-- A combination without regard to order or grouping has one value for all orders of a list. -/
lemma foldl_eq_of_perm {β : Type} {f : β → β → β} [Std.Commutative f] [Std.Associative f]
    {d e : β} {ds es : List β} (h : (d :: ds).Perm (e :: es)) : ds.foldl f d = es.foldl f e := by
  classical
  obtain ⟨hmem, hrest⟩ := List.cons_perm_iff_perm_erase.mp h
  by_cases hde : d = e
  · subst hde
    exact (List.perm_cons d |>.mp h).foldl_op_eq
  · -- each of the two first entries is among the others of the other list
    rw [List.erase_cons_tail (by simpa using Ne.symm hde)] at hrest
    have hes : es.Perm (d :: es.erase d) :=
      List.perm_cons_erase ((List.mem_cons.mp hmem).resolve_left hde)
    have hcomm : f d e = f e d := Std.Commutative.comm d e
    rw [hrest.foldl_op_eq, hes.foldl_op_eq, List.foldl_cons, List.foldl_cons, hcomm]

variable [LinearOrder α] [LinearScalar α]

instance : Std.Commutative (Scalar.min : α → α → α) where
  comm x y := by rw [LinearScalar.min_eq, LinearScalar.min_eq, min_comm]

instance : Std.Associative (Scalar.min : α → α → α) where
  assoc x y z := by simp only [LinearScalar.min_eq, min_assoc]

instance : Std.Commutative (Scalar.max : α → α → α) where
  comm x y := by rw [LinearScalar.max_eq, LinearScalar.max_eq, max_comm]

instance : Std.Associative (Scalar.max : α → α → α) where
  assoc x y z := by simp only [LinearScalar.max_eq, max_assoc]

/-- A fold that treats all children alike does not depend on their order. -/
lemma apply_eq_of_perm {fold : Fold α} (hfold : fold = .union ∨ fold = .intersect ∨ fold = .xor)
    {d e : α} {ds es : List α} (h : (d :: ds).Perm (e :: es)) :
    fold.apply d ds = fold.apply e es := by
  rcases hfold with rfl | rfl | rfl
  · exact foldl_eq_of_perm (f := Scalar.min) h
  · exact foldl_eq_of_perm (f := Scalar.max) h
  · exact foldl_eq_of_perm (f := Blend.exclusive) h

/-- A fold that cuts the first child by the others does not depend on the order of the others. -/
lemma apply_eq_of_perm_cutters {fold : Fold α} {k : α}
    (hfold : fold = .subtract ∨ fold = .smoothSubtract k) (d : α) {ds es : List α}
    (h : ds.Perm es) : fold.apply d ds = fold.apply d es := by
  have hcutter : cutter ds = cutter es := h.foldl_op_eq
  rcases hfold with rfl | rfl
  · rw [apply, apply, hcutter, h.isEmpty_eq]
  · rw [apply, apply, hcutter, h.isEmpty_eq]

end Fold

/-! ### Operations -/

namespace Operator

/-- Whether an operation treats its children alike and does not blend them. -/
def isSymmetric (op : Operator α) : Bool :=
  match op.kind with
  | .xor | .group => true
  | .union | .intersect | .tile | .mirror | .bend | .twist | .dilate | .erode | .shell | .invert
  | .clamp => Scalar.isZero op.blend
  | _ => false

/-- Two lists are the same up to an order that an operation does not see: any order if it treats its
children alike, and if it cuts its first child by the others, any order of the others. -/
inductive SameUpToOrder {β : Type} (op : Operator α) : List β → List β → Prop
  | all {xs ys : List β} (hop : op.isSymmetric = true) (h : xs.Perm ys) : op.SameUpToOrder xs ys
  | cutters {x : β} {xs ys : List β} (hop : op.kind = .subtract ∨ op.kind = .smoothSubtract)
    (h : xs.Perm ys) : op.SameUpToOrder (x :: xs) (x :: ys)

lemma SameUpToOrder.map {β γ : Type} {op : Operator α} {xs ys : List β}
    (h : op.SameUpToOrder xs ys) (f : β → γ) : op.SameUpToOrder (xs.map f) (ys.map f) := by
  cases h with
  | all hop h => exact .all hop (h.map f)
  | cutters hop h => exact .cutters hop (h.map f)

lemma plan_of_isSymmetric {op : Operator α} (hop : op.isSymmetric = true) :
    op.plan = .stages op.warp? op.fold op.finish? ∧
      (op.fold = .union ∨ op.fold = .intersect ∨ op.fold = .xor) := by
  obtain ⟨kind, blend, params⟩ := op
  cases kind <;> simp only [isSymmetric, Bool.false_eq_true] at hop <;> simp [plan, fold, hop]

lemma plan_of_cuts {op : Operator α} (hop : op.kind = .subtract ∨ op.kind = .smoothSubtract) :
    op.plan = .stages op.warp? op.fold op.finish? ∧
      (op.fold = .subtract ∨ op.fold = .smoothSubtract op.blend) := by
  obtain ⟨kind, blend, params⟩ := op
  rcases hop with rfl | rfl
  · exact ⟨rfl, ite_eq_or_eq _ _ _⟩
  · exact ⟨rfl, .inr rfl⟩

end Operator

/-- Of the distances of its children, an operation sees only what they are folded to. -/
lemma Plan.value_eq_of_apply_eq {warp : Option (Warp α)} {fold : Fold α}
    {finish : Option (Finish α)} {d e : α} {ds es : List α}
    (h : fold.apply d ds = fold.apply e es) (p : Vec2 α) :
    (Plan.stages warp fold finish).value p (d :: ds)
      = (Plan.stages warp fold finish).value p (e :: es) := by
  cases finish with
  | none => rw [value, value, h]
  | some finish => rw [value, value, h]

section

variable [LinearOrder α] [LinearScalar α]

/-- An operation gives the same distance for children in an order that it does not see. -/
lemma Operator.SameUpToOrder.value_eq {op : Operator α} {ds es : List α}
    (h : op.SameUpToOrder ds es) (p : Vec2 α) : op.plan.value p ds = op.plan.value p es := by
  cases h with
  | all hop h =>
    obtain ⟨hplan, hfold⟩ := plan_of_isSymmetric hop
    cases ds with
    | nil => rw [h.nil_eq]
    | cons d ds =>
      obtain ⟨e, es, rfl⟩ := List.exists_cons_of_ne_nil fun hnil =>
        List.cons_ne_nil d ds (List.perm_nil.mp (hnil ▸ h))
      rw [hplan]
      exact Plan.value_eq_of_apply_eq (Fold.apply_eq_of_perm hfold h) p
  | cutters hop h =>
    obtain ⟨hplan, hfold⟩ := plan_of_cuts hop
    rw [hplan]
    exact Plan.value_eq_of_apply_eq (Fold.apply_eq_of_perm_cutters hfold _ h) p

end

/-! ### Trees -/

/-- What has the same distance at every point can be exchanged anywhere in a tree. -/
lemma Node.eval_plug_congr {m n : Node α} (h : ∀ p, m.eval p = n.eval p) (way : List (Level α))
    (p : Vec2 α) : (plug way m).eval p = (plug way n).eval p := by
  induction way generalizing p with
  | nil => exact h p
  | cons level way ih =>
    simp only [plug_cons, Level.fill, eval, evalList_eq, List.map_append, List.map_cons, ih]

/-- The distance of a tree does not change if somewhere in it the children of an operation are put
in an order that the operation does not see. -/
theorem Field.eval_eq_of_sameUpToOrder [LinearOrder α] [LinearScalar α] (way : List (Level α))
    (info : Info) {op : Operator α} {cs ds : List (Node α)} (h : op.SameUpToOrder cs ds)
    (p : Vec2 α) :
    Field.eval (some (Node.plug way (.operation info op cs))) p
      = Field.eval (some (Node.plug way (.operation info op ds))) p := by
  refine Node.eval_plug_congr (fun q => ?_) way p
  rw [Node.eval, Node.eval, Node.evalList_eq, Node.evalList_eq]
  exact (h.map (Node.eval (op.plan.point q))).value_eq q

/-- A mirrored scene between two shapes. -/
def mirroredScene [RationalGaps] (inner : Node ℚ) : Node ℚ :=
  .combine "fold" .mirror [.box "left" ⟨1, 1⟩ ⟨1, 2⟩, inner, .circle "right" ⟨3, 0⟩ 1]

/-- Three shapes are put in another order, and two that a third one is cut by. -/
theorem Field.eval_mirroredScene :
    letI := Fold.belowHundred
    let a : Node ℚ := .circle "a" ⟨1, 0⟩ 2
    let b : Node ℚ := .box "b" ⟨0, 1⟩ ⟨3, 1⟩
    let c : Node ℚ := .circle "c" ⟨2, 2⟩ 1
    let p : Vec2 ℚ := ⟨-1, 2⟩
    Field.eval (some (mirroredScene (.combine "odd" .xor [a, b, c]))) p
        = Field.eval (some (mirroredScene (.combine "odd" .xor [c, a, b]))) p ∧
      Field.eval (some (mirroredScene (.combine "cut" .smoothSubtract [a, b, c]))) p
        = Field.eval (some (mirroredScene (.combine "cut" .smoothSubtract [a, c, b]))) p := by
  let := Fold.belowHundred
  intro a b c p
  let way : List (Level ℚ) := [⟨{ id := "fold" }, { kind := .mirror, blend := 0.0, params := {} },
    [.box "left" ⟨1, 1⟩ ⟨1, 2⟩], [.circle "right" ⟨3, 0⟩ 1]⟩]
  constructor
  · have hperm : [a, b, c].Perm [c, a, b] := @List.perm_append_comm _ [a, b] [c]
    exact eval_eq_of_sameUpToOrder way { id := "odd" } (.all rfl hperm) p
  · exact eval_eq_of_sameUpToOrder way { id := "cut" }
      (.cutters (.inr rfl) (List.Perm.swap c b [])) p

end DistanceField
