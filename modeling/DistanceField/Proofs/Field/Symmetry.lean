import Mathlib
import DistanceField.Node.Build
import DistanceField.Proofs.Field.Smooth

/-!
# Repetitions and reflections

Over exact numbers, wrapping a coordinate takes off the multiple of the period that is nearest to
it. So coordinates that differ by a multiple of the period wrap to the same one, at most half a
period from zero, whatever the signs of the coordinate and of the period. Folding the plane takes a
point and its mirror image to the same point.

A warp is all that an operation does to its sample point: children that are sampled at the same
point give the same distance. A repeated scene is therefore periodic and a mirrored one symmetric.
-/

namespace DistanceField

namespace Vec2

/-- The point that lies a number of periods away in each direction. -/
def shift (p period : Vec2 ℚ) (m n : ℤ) : Vec2 ℚ :=
  ⟨p.x + m * period.x, p.y + n * period.y⟩

/-- The mirror image of a point at an offset on an axis. -/
def reflect (p : Vec2 ℚ) (offset : ℚ) : Axis → Vec2 ℚ
  | .x => ⟨2 * offset - p.x, p.y⟩
  | .y => ⟨p.x, 2 * offset - p.y⟩

/-- A point of the cell around the origin, the boundary included. -/
structure InCell (p period : Vec2 ℚ) : Prop where
  neg_le_x : -(|period.x| / 2) ≤ p.x
  x_le : p.x ≤ |period.x| / 2
  neg_le_y : -(|period.y| / 2) ≤ p.y
  y_le : p.y ≤ |period.y| / 2

variable [RationalGaps]

/-! ### Coordinates -/

section

variable {x period : ℚ}

/-- Wrapping takes off the nearest multiple of the period. -/
lemma wrap_eq (hperiod : period ≠ 0) : wrap x period = x - round (x / period) * period := by
  have hhalf : (x + 0.5 * period) / period = x / period + 1 / 2 := by
    norm_num
    field_simp
  have hround : (Scalar.floor ((x + 0.5 * period) / period) : ℚ) = round (x / period) := by
    rw [hhalf, round_eq]
    rfl
  rw [wrap, Scalar.modulo, hround]
  ring

lemma wrap_add_mul (hperiod : period ≠ 0) (m : ℤ) :
    wrap (x + m * period) period = wrap x period := by
  have hquotient : (x + m * period) / period = x / period + m := by
    field_simp
  rw [wrap_eq hperiod, wrap_eq hperiod, hquotient, round_add_intCast]
  push_cast
  ring

lemma exists_wrap_eq (hperiod : period ≠ 0) : ∃ m : ℤ, wrap x period = x + m * period := by
  refine ⟨-round (x / period), ?_⟩
  rw [wrap_eq hperiod]
  push_cast
  ring

lemma wrap_wrap (hperiod : period ≠ 0) : wrap (wrap x period) period = wrap x period := by
  obtain ⟨m, hm⟩ := exists_wrap_eq (x := x) hperiod
  rw [hm, wrap_add_mul hperiod, hm]

lemma abs_wrap_le (hperiod : period ≠ 0) : |wrap x period| ≤ |period| / 2 := by
  have hwrap : wrap x period = (x / period - round (x / period)) * period := by
    rw [wrap_eq hperiod, sub_mul, div_mul_cancel₀ x hperiod]
  rw [hwrap, abs_mul]
  calc |x / period - round (x / period)| * |period|
      ≤ 1 / 2 * |period| := mul_le_mul_of_nonneg_right (abs_sub_round _) (abs_nonneg _)
    _ = |period| / 2 := by ring

end

/-! ### Points -/

section

variable {period : Vec2 ℚ} (hx : period.x ≠ 0) (hy : period.y ≠ 0) (p : Vec2 ℚ)

include hx hy

lemma tile_shift (m n : ℤ) : (p.shift period m n).tile period = p.tile period := by
  simp only [tile, zipWith, shift, wrap_add_mul hx, wrap_add_mul hy]

lemma exists_tile_eq_shift : ∃ m n : ℤ, p.tile period = p.shift period m n := by
  obtain ⟨m, hm⟩ := exists_wrap_eq (x := p.x) hx
  obtain ⟨n, hn⟩ := exists_wrap_eq (x := p.y) hy
  refine ⟨m, n, ?_⟩
  simp only [tile, zipWith, shift, hm, hn]

lemma tile_tile : (p.tile period).tile period = p.tile period := by
  simp only [tile, zipWith, wrap_wrap hx, wrap_wrap hy]

lemma inCell_tile : (p.tile period).InCell period := by
  obtain ⟨hleft, hright⟩ := abs_le.mp (abs_wrap_le (x := p.x) hx)
  obtain ⟨hdown, hup⟩ := abs_le.mp (abs_wrap_le (x := p.y) hy)
  exact ⟨hleft, hright, hdown, hup⟩

end

/-- Folding the plane does not tell a point from its mirror image. -/
lemma mirror_reflect (p : Vec2 ℚ) (offset : ℚ) (axis : Axis) :
    (p.reflect offset axis).mirror offset axis = p.mirror offset axis := by
  have habs : ∀ x : ℚ, Scalar.abs (2 * offset - x - offset) = Scalar.abs (x - offset) := by
    intro x
    have hneg : 2 * offset - x - offset = -(x - offset) := by ring
    rw [hneg]
    exact abs_neg _
  cases axis with
  | x => simp only [reflect, mirror, habs]
  | y => simp only [reflect, mirror, habs]

end Vec2

/-! ### Operations -/

section

variable {α : Type} [Scalar α]

/-- A displacement alone adds something that depends on the point itself. -/
lemma Plan.value_stages (p q : Vec2 α) (warp : Option (Warp α)) (fold : Fold α)
    (finish : Option (Finish α)) (ds : List α) :
    (Plan.stages warp fold finish).value p ds = (Plan.stages warp fold finish).value q ds := by
  cases ds with
  | nil => rw [value, value]
  | cons d ds => cases finish <;> rw [value, value]

/-- Where a warp takes two points to one, an operation has the same distance at both. -/
lemma Node.eval_eq_of_warp_eq {op : Operator α} {warp : Warp α} (hwarp : op.warp? = some warp)
    {p q : Vec2 α} (h : warp.apply p = warp.apply q) (info : Info) (children : List (Node α)) :
    (Node.operation info op children).eval p = (Node.operation info op children).eval q := by
  have hop : op.kind ≠ .displace := by
    intro hkind
    rw [Operator.warp?, hkind] at hwarp
    cases hwarp
  have hplan : op.plan = .stages (some warp) op.fold op.finish? := by
    rw [Operator.plan, if_neg hop, hwarp]
  rw [eval, eval, hplan, Plan.point, Plan.point, h]
  exact Plan.value_stages p q _ _ _ _

end

/-- A repeated scene is periodic: it wraps every point into one cell, by a number of whole periods,
and leaves the points there that it gives. A mirrored scene is symmetric. -/
theorem Field.eval_tile_shift_and_mirror_reflect [RationalGaps] (info : Info) (op : Operator ℚ)
    (children : List (Node ℚ)) :
    (op.kind = .tile → ∀ period, op.params.period.getD .one = period →
      period.x ≠ 0 → period.y ≠ 0 →
      (∀ (p : Vec2 ℚ) (m n : ℤ),
        Field.eval (some (.operation info op children)) (p.shift period m n)
          = Field.eval (some (.operation info op children)) p) ∧
      ∀ p : Vec2 ℚ, (p.tile period).tile period = p.tile period ∧
        (p.tile period).InCell period ∧ ∃ m n : ℤ, p.tile period = p.shift period m n) ∧
    (op.kind = .mirror → ∀ p : Vec2 ℚ,
      Field.eval (some (.operation info op children))
          (p.reflect (op.params.offset.getD 0.0) (op.params.axis.getD .x))
        = Field.eval (some (.operation info op children)) p) := by
  constructor
  · rintro hkind period rfl hx hy
    refine ⟨fun p m n => ?_, fun p => ?_⟩
    · have hwarp : op.warp? = some (.tile (op.params.period.getD .one)) := by
        rw [Operator.warp?, hkind]
        rfl
      exact Node.eval_eq_of_warp_eq hwarp (Vec2.tile_shift hx hy p m n) info children
    · exact ⟨Vec2.tile_tile hx hy p, Vec2.inCell_tile hx hy p, Vec2.exists_tile_eq_shift hx hy p⟩
  · intro hkind p
    have hwarp : op.warp?
        = some (.mirror (op.params.offset.getD 0.0) (op.params.axis.getD .x)) := by
      rw [Operator.warp?, hkind]
      rfl
    exact Node.eval_eq_of_warp_eq hwarp (Vec2.mirror_reflect p _ _) info children

/-- A negative period wraps a negative coordinate like a positive one, and an unset offset reflects
at zero. -/
theorem Field.eval_tile_negativePeriod :
    letI := Fold.belowHundred
    let grid : Operator ℚ := { kind := .tile, blend := 0, params := { period := some ⟨-3, 2⟩ } }
    let fold : Operator ℚ := { kind := .mirror, blend := 1, params := { axis := some .y } }
    let shapes : List (Node ℚ) := [.circle "a" ⟨1, 0⟩ 1, .box "b" ⟨0, 1 / 2⟩ ⟨1, 1⟩]
    grid.kind = .tile ∧ grid.params.period.getD .one = ⟨-3, 2⟩ ∧ fold.kind = .mirror ∧
    Field.eval (some (.operation { id := "g" } grid shapes)) (Vec2.shift ⟨-1, 1 / 2⟩ ⟨-3, 2⟩ 5 (-4))
      = Field.eval (some (.operation { id := "g" } grid shapes)) ⟨-1, 1 / 2⟩ ∧
    (Vec2.tile ⟨-16, -15 / 2⟩ ⟨-3, 2⟩).InCell (⟨-3, 2⟩ : Vec2 ℚ) ∧
    Field.eval (some (.operation { id := "f" } fold shapes)) (Vec2.reflect ⟨4, -3⟩ 0.0 .y)
      = Field.eval (some (.operation { id := "f" } fold shapes)) ⟨4, -3⟩ := by
  let := Fold.belowHundred
  intro grid fold shapes
  obtain ⟨hshift, hcell⟩ := (eval_tile_shift_and_mirror_reflect { id := "g" } grid shapes).1 rfl
    ⟨-3, 2⟩ rfl (by norm_num) (by norm_num)
  have hreflect := (eval_tile_shift_and_mirror_reflect { id := "f" } fold shapes).2 rfl ⟨4, -3⟩
  exact ⟨rfl, rfl, rfl, hshift _ 5 (-4), (hcell _).2.1, hreflect⟩

end DistanceField
