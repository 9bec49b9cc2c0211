import Mathlib
import DistanceField.Field
import DistanceField.Node.Build
import DistanceField.Number.Binary32

/-!
# The layout of a grid

A grid of distances is a list. `RowMajor` says what stands where in it, whatever way it was built:
the entry of column `x` and row `y` at the place `x + y * n`. There is only one such list, so a grid
is known by its layout.
-/

namespace DistanceField

/-! ### Tables row by row -/

/-- A list that holds a square table row by row. -/
structure RowMajor {β : Type} (n : Nat) (entry : Nat → Nat → β) (l : List β) : Prop where
  length_eq : l.length = n * n
  getElem?_eq : ∀ x y, x < n → y < n → l[x + y * n]? = some (entry x y)

namespace RowMajor

variable {β γ : Type} {n : Nat} {entry : Nat → Nat → β}

lemma length_rows (n m : Nat) (entry : Nat → Nat → β) :
    ((List.range m).flatMap fun y => (List.range n).map fun x => entry x y).length = m * n := by
  simp [List.length_flatMap]

/-- Rows one after the other: those before the last are found where they were without it. -/
lemma getElem?_rows (m : Nat) {x y : Nat} (hx : x < n) (hy : y < m) :
    ((List.range m).flatMap fun y => (List.range n).map fun x => entry x y)[x + y * n]?
      = some (entry x y) := by
  induction m with
  | zero => exact absurd hy (Nat.not_lt_zero y)
  | succ m ih =>
    rw [List.range_succ, List.flatMap_append, List.flatMap_singleton]
    rcases Nat.lt_succ_iff_lt_or_eq.mp hy with hlt | rfl
    · have hbefore : x + y * n < m * n := by
        calc x + y * n < n + y * n := Nat.add_lt_add_right hx _
          _ = (y + 1) * n := by ring
          _ ≤ m * n := Nat.mul_le_mul_right n hlt
      rw [List.getElem?_append_left (by rwa [length_rows]), ih hlt]
    · rw [List.getElem?_append_right (by rw [length_rows]; exact Nat.le_add_left _ _), length_rows,
        Nat.add_sub_cancel, List.getElem?_map, List.getElem?_range hx]
      rfl

lemma rows (n : Nat) (entry : Nat → Nat → β) :
    RowMajor n entry ((List.range n).flatMap fun y => (List.range n).map fun x => entry x y) :=
  ⟨length_rows n n entry, fun _ _ hx hy => getElem?_rows n hx hy⟩

lemma map {l : List β} (h : RowMajor n entry l) (f : β → γ) :
    RowMajor n (fun x y => f (entry x y)) (l.map f) := by
  refine ⟨?_, fun x y hx hy => ?_⟩
  · rw [List.length_map, h.length_eq]
  · rw [List.getElem?_map, h.getElem?_eq x y hx hy]
    rfl

/-- The layout leaves no choice: every place in the list is that of one column and one row. -/
lemma unique {l l' : List β} (h : RowMajor n entry l) (h' : RowMajor n entry l') : l = l' := by
  apply List.ext_getElem?
  intro i
  by_cases hi : i < n * n
  · have hn : 0 < n := Nat.pos_of_mul_pos_left (Nat.zero_lt_of_lt hi)
    have hplace : i % n + i / n * n = i := Nat.mod_add_div' i n
    rw [← hplace, h.getElem?_eq _ _ (Nat.mod_lt i hn) (Nat.div_lt_of_lt_mul hi),
      h'.getElem?_eq _ _ (Nat.mod_lt i hn) (Nat.div_lt_of_lt_mul hi)]
  · have hlen := h.length_eq
    have hlen' := h'.length_eq
    rw [List.getElem?_eq_none (by omega), List.getElem?_eq_none (by omega)]

end RowMajor

/-! ### Grids -/

/-- A grid holds the distances at the cell centres row by row. So it is what sampling gives at any
list of points that holds the cell centres row by row. -/
theorem Field.rowMajor_grid {α : Type} [Scalar α] (scene : Option (Node α)) (lo hi : Vec2 α)
    (n : Nat) :
    let stepX := (hi.x - lo.x) / Scalar.ofNat n
    let stepY := (hi.y - lo.y) / Scalar.ofNat n
    let centre (x y : Nat) : Vec2 α :=
      ⟨lo.x + (Scalar.ofNat x + 0.5) * stepX, lo.y + (Scalar.ofNat y + 0.5) * stepY⟩
    RowMajor n (fun x y => Field.eval scene (centre x y)) (Field.grid scene lo hi n) ∧
    ∀ points, RowMajor n centre points → Field.grid scene lo hi n = Field.evalAll scene points := by
  intro stepX stepY centre
  have hcentres : RowMajor n centre (Field.cellCentres lo hi n) := .rows n centre
  have hgrid := hcentres.map (Field.eval scene)
  exact ⟨hgrid, fun points hpoints => hgrid.unique (hpoints.map (Field.eval scene))⟩

/-- Two columns and two rows of cells that are twice as high as wide. -/
theorem Field.grid_fourCells :
    let disc : Node Float32 := .circle "c" ⟨0.5, 1.0⟩ 0.5
    let points : List (Vec2 Float32) := [⟨-0.5, 1.0⟩, ⟨0.5, 1.0⟩, ⟨-0.5, 3.0⟩, ⟨0.5, 3.0⟩]
    Field.grid (some disc) ⟨-1.0, 0.0⟩ ⟨1.0, 4.0⟩ 2 = Field.evalAll (some disc) points := by
  intro disc points
  refine (rowMajor_grid (some disc) ⟨-1.0, 0.0⟩ ⟨1.0, 4.0⟩ 2).2 points ⟨rfl, ?_⟩
  intro x y hx hy
  interval_cases x <;> interval_cases y <;> decide +kernel

end DistanceField
