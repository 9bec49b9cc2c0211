/-!
# The fields of a binary32 number

The sign, the exponent and the fraction, as the bits of a number hold them.
-/

namespace DistanceField.Binary32

/-- The bits of a number, by field: eight of them are the exponent and 23 the fraction. -/
structure Fields where
  negative : Bool
  exponent : Nat
  fraction : Nat
  deriving DecidableEq

/-- The fields of a number. -/
def fields (x : Float32) : Fields :=
  let bits := x.toBits.toNat
  ⟨0x80000000 ≤ bits, bits / 0x800000 % 0x100, bits % 0x800000⟩

/-- The exponent field of NaN and the infinities. -/
def Fields.special : Nat := 255

/-- The bit in front of the fraction of a number that is not subnormal. -/
def Fields.leadingBit : Nat := 0x800000

end DistanceField.Binary32
