import Mathlib
import DistanceField.Node.Build
import DistanceField.Proofs.Number.Order
import DistanceField.Proofs.Tree

/-!
# Inside and outside

A negative distance says that a point is inside. For trees of plain combinations, without blends,
the sign of the distance is computed by set algebra alone: a union is inside where some child is, an
exclusive union where an odd number of children are, and so on down to the shapes.

The points on the boundary of a shape are left out. Elsewhere all distances on the way up to the
root are numbers other than zero, so each of them has a side, and `min`, `max` and negation act on
sides like `or`, `and` and `not`.
-/

namespace DistanceField

/-! ### Set algebra -/

/-- Whether a point is inside an operation, from whether it is inside each of the children. -/
def OpKind.inside : OpKind → List Bool → Bool
  | _, [] => false
  | .intersect, bs => bs.all id
  | .subtract, b :: bs => b && !bs.any id
  | .xor, bs => bs.count true % 2 = 1
  | .invert, bs => !bs.any id
  | _, bs => bs.any id

variable {α : Type} [Scalar α]

/-- Whether an operation combines or warps its children without blending them. -/
def Operator.isPlain (op : Operator α) : Bool :=
  match op.kind with
  | .xor | .group => true
  | .union | .intersect | .subtract | .invert | .tile | .mirror | .bend | .twist =>
    Scalar.isZero op.blend
  | _ => false

namespace Node

/-- Whether a node is a shape or an operation that does not blend. -/
def isPlain : Node α → Bool
  | .primitive _ _ => true
  | .operation _ op _ => op.isPlain

mutual

/-- Whether a point is inside a tree. -/
def inside [LT α] [DecidableLT α] (p : Vec2 α) : Node α → Bool
  | .primitive _ body => body.eval p < 0.0
  | .operation _ op children => op.kind.inside (insideList (op.plan.point p) children)

def insideList [LT α] [DecidableLT α] (p : Vec2 α) : List (Node α) → List Bool
  | [] => []
  | n :: rest => n.inside p :: insideList p rest

end

/-- Every shape is at a distance that is a number and not zero. -/
def OffBoundary [LE α] (n : Node α) (p : Vec2 α) : Prop :=
  ∀ s ∈ n.samples p, s.1.isPrimitive = true →
    s.1.eval s.2 ≤ s.1.eval s.2 ∧ Scalar.isZero (s.1.eval s.2) = false

instance [LE α] [DecidableLE α] (n : Node α) (p : Vec2 α) : Decidable (n.OffBoundary p) :=
  inferInstanceAs (Decidable (∀ s ∈ n.samples p, s.1.isPrimitive = true →
    s.1.eval s.2 ≤ s.1.eval s.2 ∧ Scalar.isZero (s.1.eval s.2) = false))

lemma insideList_eq [LT α] [DecidableLT α] (p : Vec2 α) (ns : List (Node α)) :
    insideList p ns = ns.map (inside p) := by
  induction ns with
  | nil => rfl
  | cons n rest ih => rw [insideList, ih, List.map_cons]

lemma OffBoundary.child [LE α] {info : Info} {op : Operator α} {cs : List (Node α)} {p : Vec2 α}
    (h : (Node.operation info op cs).OffBoundary p) {c : Node α} (hc : c ∈ cs) :
    c.OffBoundary (op.plan.point p) := by
  intro s hs
  exact h s (mem_samples_of_child hc hs)

end Node

/-! ### Sides -/

variable [LE α] [LT α]

/-- A distance is a number other than zero, and it is negative on the inside only. -/
def HasSide (x : α) (inside : Bool) : Prop :=
  if inside then x < 0.0 else 0.0 < x

namespace HasSide

variable [OrderedScalar α] {x y : α} {a b : Bool}

lemma lt_zero_iff (h : HasSide x a) : x < 0.0 ↔ a = true := by
  cases a with
  | true => exact iff_of_true h rfl
  | false =>
    refine iff_of_false ?_ Bool.false_ne_true
    intro hlt
    exact (OrderedScalar.lt_iff.mp h).2 (OrderedScalar.lt_iff.mp hlt).1

lemma number (h : HasSide x a) : x ≤ x := by
  cases a with
  | true => exact (OrderedScalar.le_self (OrderedScalar.lt_iff.mp h).1).1
  | false => exact (OrderedScalar.le_self (OrderedScalar.lt_iff.mp h).1).2

lemma of_le (h : HasSide x true) (hle : y ≤ x) : HasSide y true := by
  obtain ⟨hx, hzero⟩ := OrderedScalar.lt_iff.mp h
  refine OrderedScalar.lt_iff.mpr ⟨OrderedScalar.le_trans hle hx, ?_⟩
  intro hy
  exact hzero (OrderedScalar.le_trans hy hle)

lemma of_ge (h : HasSide x false) (hle : x ≤ y) : HasSide y false := by
  obtain ⟨hx, hzero⟩ := OrderedScalar.lt_iff.mp h
  refine OrderedScalar.lt_iff.mpr ⟨OrderedScalar.le_trans hx hle, ?_⟩
  intro hy
  exact hzero (OrderedScalar.le_trans hle hy)

lemma min (hx : HasSide x a) (hy : HasSide y b) : HasSide (Scalar.min x y) (a || b) := by
  obtain ⟨hle, hle'⟩ := OrderedScalar.min_le hx.number hy.number
  cases a with
  | true => exact hx.of_le hle
  | false =>
    cases b with
    | true => exact hy.of_le hle'
    | false =>
      rcases OrderedScalar.min_eq (x := x) (y := y) with h | h <;> rw [h]
      · exact hx
      · exact hy

lemma max (hx : HasSide x a) (hy : HasSide y b) : HasSide (Scalar.max x y) (a && b) := by
  obtain ⟨hle, hle'⟩ := OrderedScalar.le_max hx.number hy.number
  cases a with
  | false => exact hx.of_ge hle
  | true =>
    cases b with
    | false => exact hy.of_ge hle'
    | true =>
      rcases OrderedScalar.max_eq (x := x) (y := y) with h | h <;> rw [h]
      · exact hx
      · exact hy

lemma neg (hx : HasSide x a) : HasSide (-x) (!a) := by
  obtain ⟨hbelow, habove⟩ := OrderedScalar.neg_zero (α := α)
  cases a with
  | true =>
    obtain ⟨hle, hlt⟩ := OrderedScalar.lt_iff.mp hx
    refine OrderedScalar.lt_iff.mpr ⟨?_, ?_⟩
    · exact OrderedScalar.le_trans habove (OrderedScalar.neg_le_neg_iff.mpr hle)
    · intro h
      exact hlt (OrderedScalar.neg_le_neg_iff.mp (OrderedScalar.le_trans h habove))
  | false =>
    obtain ⟨hle, hlt⟩ := OrderedScalar.lt_iff.mp hx
    refine OrderedScalar.lt_iff.mpr ⟨?_, ?_⟩
    · exact OrderedScalar.le_trans (OrderedScalar.neg_le_neg_iff.mpr hle) hbelow
    · intro h
      exact hlt (OrderedScalar.neg_le_neg_iff.mp (OrderedScalar.le_trans hbelow h))

lemma exclusive (hx : HasSide x a) (hy : HasSide y b) :
    HasSide (Blend.exclusive x y) (a ^^ b) := by
  have h := (hx.min hy).max (hx.max hy).neg
  cases a <;> cases b <;> exact h

/-! ### Folds -/

variable {xs : List α} {bs : List Bool}

omit [LE α] [OrderedScalar α] in
lemma foldl {f : α → α → α} {g : Bool → Bool → Bool}
    (hstep : ∀ {x y : α} {a b : Bool}, HasSide x a → HasSide y b → HasSide (f x y) (g a b))
    (hx : HasSide x a) (hxs : List.Forall₂ HasSide xs bs) :
    HasSide (xs.foldl f x) (bs.foldl g a) := by
  induction hxs generalizing x a with
  | nil => exact hx
  | cons hy _ ih => exact ih (hstep hx hy)

end HasSide

lemma foldl_or (bs : List Bool) (a : Bool) : bs.foldl or a = (a || bs.any id) := by
  induction bs generalizing a with
  | nil => simp
  | cons b bs ih => simp [ih, Bool.or_assoc]

lemma foldl_and (bs : List Bool) (a : Bool) : bs.foldl and a = (a && bs.all id) := by
  induction bs generalizing a with
  | nil => simp
  | cons b bs ih => simp [ih, Bool.and_assoc]

/-- Exclusive unions from the left count modulo two. -/
lemma foldl_xor (bs : List Bool) (a : Bool) :
    bs.foldl xor a = decide ((a :: bs).count true % 2 = 1) := by
  induction bs generalizing a with
  | nil => cases a <;> rfl
  | cons b bs ih =>
    rw [List.foldl_cons, ih, decide_eq_decide]
    cases a <;> cases b <;> simp
    omega

namespace Fold

variable [OrderedScalar α] {x : α} {xs : List α} {b : Bool} {bs : List Bool}

lemma hasSide_union (hx : HasSide x b) (hxs : List.Forall₂ HasSide xs bs) :
    HasSide (Fold.union.apply x xs) ((b :: bs).any id) := by
  have h := hx.foldl HasSide.min hxs
  rw [foldl_or] at h
  exact h

lemma hasSide_intersect (hx : HasSide x b) (hxs : List.Forall₂ HasSide xs bs) :
    HasSide (Fold.intersect.apply x xs) ((b :: bs).all id) := by
  have h := hx.foldl HasSide.max hxs
  rw [foldl_and] at h
  exact h

lemma hasSide_xor (hx : HasSide x b) (hxs : List.Forall₂ HasSide xs bs) :
    HasSide (Fold.xor.apply x xs) ((b :: bs).count true % 2 = 1) := by
  have h := hx.foldl HasSide.exclusive hxs
  rw [foldl_xor] at h
  exact h

/-- The nearest of the cutters is found starting from infinity, which is outside of all shapes. -/
lemma hasSide_cutter (hxs : List.Forall₂ HasSide xs bs) : HasSide (cutter xs) (bs.any id) := by
  have hinfinity : HasSide (Scalar.infinity : α) false := OrderedScalar.zero_lt_infinity
  have h := hinfinity.foldl HasSide.min hxs
  rw [foldl_or, Bool.false_or] at h
  exact h

lemma hasSide_subtract (hx : HasSide x b) (hxs : List.Forall₂ HasSide xs bs) :
    HasSide (Fold.subtract.apply x xs) (b && !bs.any id) := by
  cases hxs with
  | nil =>
    rw [List.any_nil, Bool.not_false, Bool.and_true]
    exact hx
  | cons hy hys => exact hx.max (hasSide_cutter (.cons hy hys)).neg

end Fold

/-! ### Trees -/

omit [LE α] [LT α] in
/-- What a plain operation does to the distances of its children. -/
lemma Operator.value_of_isPlain {op : Operator α} (hop : op.isPlain = true) (p : Vec2 α) (x : α)
    (xs : List α) :
    op.plan.value p (x :: xs) = match op.kind with
      | .intersect => Fold.intersect.apply x xs
      | .subtract => Fold.subtract.apply x xs
      | .xor => Fold.xor.apply x xs
      | .invert => -Fold.union.apply x xs
      | _ => Fold.union.apply x xs := by
  obtain ⟨kind, blend, params⟩ := op
  cases kind <;> simp only [isPlain, Bool.false_eq_true] at hop <;>
    simp [plan, warp?, fold, finish?, hop, Plan.value, Finish.apply]

variable [OrderedScalar α]

lemma Operator.hasSide_value {op : Operator α} (hop : op.isPlain = true) (p : Vec2 α)
    {xs : List α} {bs : List Bool} (h : List.Forall₂ HasSide xs bs) :
    HasSide (op.plan.value p xs) (op.kind.inside bs) := by
  cases h with
  | nil =>
    rw [Plan.value, OpKind.inside]
    exact OrderedScalar.zero_lt_sentinel
  | cons hx hxs =>
    rw [value_of_isPlain hop]
    cases op.kind with
    | intersect => exact Fold.hasSide_intersect hx hxs
    | subtract => exact Fold.hasSide_subtract hx hxs
    | xor => exact Fold.hasSide_xor hx hxs
    | invert => exact (Fold.hasSide_union hx hxs).neg
    | _ => exact Fold.hasSide_union hx hxs

variable [DecidableLT α]

lemma HasSide.of_number {x : α} (hx : x ≤ x) (hzero : Scalar.isZero x = false) :
    HasSide x (x < 0.0) := by
  have hboth : ¬ (x ≤ 0.0 ∧ (0.0 : α) ≤ x) := by
    rw [← OrderedScalar.isZero_iff, hzero]
    exact Bool.false_ne_true
  by_cases hneg : x < 0.0
  · rw [decide_eq_true hneg]
    exact hneg
  · rw [decide_eq_false hneg]
    have hnumber := (OrderedScalar.le_self (OrderedScalar.lt_iff.mp
      (OrderedScalar.zero_lt_sentinel (α := α))).1).1
    have hle : ¬ x ≤ 0.0 := fun hle =>
      hneg (OrderedScalar.lt_iff.mpr ⟨hle, fun hge => hboth ⟨hle, hge⟩⟩)
    exact OrderedScalar.lt_iff.mpr ⟨(OrderedScalar.le_total hx hnumber).resolve_left hle, hle⟩

/-- Off the boundaries of its shapes, the distance of a plain tree has a side. -/
lemma Node.hasSide_eval {n : Node α} (hplain : ∀ m ∈ n.preorder, m.isPlain = true) {p : Vec2 α}
    (hp : n.OffBoundary p) : HasSide (n.eval p) (n.inside p) := by
  induction n generalizing p with
  | primitive info body =>
    obtain ⟨hnumber, hzero⟩ := hp (.primitive info body, p) List.mem_cons_self rfl
    rw [eval, inside]
    exact HasSide.of_number hnumber hzero
  | operation info op children ih =>
    obtain ⟨hop, hchildren⟩ := forall_mem_preorder_operation.mp hplain
    rw [eval, inside, evalList_eq, insideList_eq]
    refine Operator.hasSide_value hop p ?_
    rw [List.forall₂_map_left_iff, List.forall₂_map_right_iff, List.forall₂_same]
    intro c hc
    exact ih c hc (hchildren c hc) (hp.child hc)

/-- Where no shape is at distance zero, a plain tree has a negative distance at exactly the points
inside of it. -/
theorem Field.eval_lt_zero_iff_inside {tree : Node α}
    (hplain : ∀ n ∈ tree.preorder, n.isPlain = true) {p : Vec2 α} (hp : tree.OffBoundary p) :
    Field.eval (some tree) p < 0.0 ↔ tree.inside p = true :=
  (Node.hasSide_eval hplain hp).lt_zero_iff

/-- A ring within the odd part of three discs, a reflected box and the outside of a far disc. -/
def plainScene : Node Float32 :=
  .combine "all" .intersect
    [.combine "ring" .subtract [.circle "disc" .zero 2.0, .circle "hole" .zero 0.5],
    .operation { id := "odd" } { kind := .xor, blend := 0.5, params := {} }
      [.circle "a" .zero 1.0, .circle "b" .zero 3.0, .circle "c" .zero 4.0],
    .combine "fold" .mirror [.box "right" ⟨1.0, 0.0⟩ ⟨0.5, 0.5⟩],
    .combine "not" .invert [.circle "far" ⟨9.0, 0.0⟩ 1.0]]

theorem Field.eval_plainScene_lt_zero :
    let p : Vec2 Float32 := ⟨-0.75, 0.0⟩
    (∀ n ∈ plainScene.preorder, n.isPlain = true) ∧ plainScene.OffBoundary p ∧
      plainScene.inside p = true ∧ Field.eval (some plainScene) p < 0.0 := by
  intro p
  have hplain : ∀ n ∈ plainScene.preorder, n.isPlain = true := by decide +kernel
  have hp : plainScene.OffBoundary p := by decide +kernel
  have hinside : plainScene.inside p = true := by decide +kernel
  exact ⟨hplain, hp, hinside, (eval_lt_zero_iff_inside hplain hp).mpr hinside⟩

end DistanceField
