import DistanceField.Number.Sine
import DistanceField.Scalar

/-!
# Binary32 numbers

The numbers that scenes are drawn with: each operation is rounded once, to nearest. A NaN operand
of `min` and `max` is passed over.

For text, a finite number is taken apart into its sign, a whole significand and a power of two.
-/

namespace DistanceField.Binary32

/-- The smaller number; the other operand where one is NaN. -/
def min (a b : Float32) : Float32 :=
  if a ≤ b ∨ b.isNaN then a else b

/-- The larger number; the other operand where one is NaN. -/
def max (a b : Float32) : Float32 :=
  if b ≤ a ∨ b.isNaN then a else b

def infinity : Float32 := Float32.ofBits 0x7f800000

instance : Scalar Float32 where
  min := Binary32.min
  max := Binary32.max
  abs := Float32.abs
  floor := Float32.floor
  sqrt := Float32.sqrt
  sin := Angle.sin
  cos := Angle.cos
  infinity := infinity
  ofNat := Float32.ofNat
  isZero x := x == 0.0

/-- The binary32 number nearest to a binary64 number; a tie goes to the even significand. -/
def ofBinary64 (x : Float) : Float32 :=
  match x.toModel.unpack with
  | .finite sign significand exponent _ => ⟨.pack (.round .binary32 sign significand exponent)⟩
  | special => ⟨.pack special⟩

/-! ### Finite numbers -/

/-- A number `± significand * 2 ^ exponent`. -/
structure Parts where
  negative : Bool
  significand : Nat
  exponent : Int
  deriving DecidableEq

/-- The parts of a finite number; none for NaN and the infinities. -/
def parts? (x : Float32) : Option Parts :=
  let f := fields x
  if f.exponent = Fields.special then none
  else if f.exponent = 0 then some ⟨f.negative, f.fraction, -149⟩
  else some ⟨f.negative, Fields.leadingBit + f.fraction, (f.exponent : Int) - 150⟩

/-- Whether the neighbour towards zero is nearer than the neighbour away from it: the significand
is the least of its binade, and the binade below is spaced more finely. -/
def Parts.atBinadeStart (d : Parts) : Bool :=
  d.significand = Fields.leadingBit ∧ -149 < d.exponent

end DistanceField.Binary32
