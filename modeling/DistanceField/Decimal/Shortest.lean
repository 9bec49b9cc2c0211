import DistanceField.Number.Binary32

/-!
# Shortest decimals

The decimal of a binary32 number is a point of the coarsest decimal grid that has one in the
interval of reals that round to the number, and of those the nearest to it. A tie goes to the even
digit. The ends of the interval belong to it when the significand is even.

Everything is exact: a number `m * 2 ^ q` and a grid point `n * 10 ^ i` are compared after both are
multiplied by the powers of two and ten that clear their denominators.
-/

namespace DistanceField

/-- A decimal `digits * 10 ^ exponent`. -/
structure Decimal where
  digits : Nat
  exponent : Int
  deriving DecidableEq

namespace Decimal

open Binary32 (Parts)

/-- What `2 ^ q` becomes when the denominators of `2 ^ q` and `10 ^ i` are cleared. -/
def binaryUnit (q i : Int) : Nat :=
  Nat.pow 2 q.toNat * Nat.pow 10 (-i).toNat

/-- What `10 ^ i` becomes when the denominators of `2 ^ q` and `10 ^ i` are cleared. -/
def gridUnit (q i : Int) : Nat :=
  Nat.pow 10 i.toNat * Nat.pow 2 (-q).toNat

/-- Whether the grid point `n * 10 ^ i` rounds to `d`. The interval reaches half a unit of the last
place to either side, and a quarter downwards where a binade starts. -/
def roundsTo (d : Parts) (i : Int) (n : Nat) : Bool :=
  let unit := binaryUnit d.exponent i
  let below := if d.atBinadeStart then 1 else 2
  let lower := (4 * d.significand - below) * unit
  let upper := (4 * d.significand + 2) * unit
  let point := 4 * n * gridUnit d.exponent i
  if d.significand % 2 = 0 then lower ≤ point ∧ point ≤ upper else lower < point ∧ point < upper

/-- The grid point nearest to `d` of those that round to it. -/
def onGrid? (d : Parts) (i : Int) : Option Nat :=
  let value := d.significand * binaryUnit d.exponent i
  let unit := gridUnit d.exponent i
  let n := value / unit
  match roundsTo d i n, roundsTo d i (n + 1) with
  | false, false => none
  | true, false => some n
  | false, true => some (n + 1)
  | true, true =>
    let low := value - n * unit
    let high := (n + 1) * unit - value
    if low < high ∨ low = high ∧ n % 2 = 0 then some n else some (n + 1)

/-- Try grids from `10 ^ i` to finer ones. -/
def search (d : Parts) : Nat → Int → Decimal
  | 0, i => ⟨d.significand * binaryUnit d.exponent i / gridUnit d.exponent i, i⟩
  | steps + 1, i =>
    match onGrid? d i with
    | some n => ⟨n, i⟩
    | none => search d steps (i - 1)

/-- The shortest decimal of a number other than zero. All binary32 numbers are below `10 ^ 39`, and
all of them are points of the grid `10 ^ -149`. -/
def shortest (d : Parts) : Decimal :=
  search d 188 38

end Decimal

end DistanceField
