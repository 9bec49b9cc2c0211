import DistanceField.Number.Binary32

/-!
# Decimals with a fixed number of places

A number is written with a given number of places after the point. Its exact value is rounded to
that many, and a half goes to the even neighbour. The sign is kept where the rounded value is zero.
-/

namespace DistanceField.Decimal

/-- The quotient rounded to the nearest integer, a half to the even one. -/
def roundDiv (num den : Nat) : Nat :=
  let q := num / den
  let twice := 2 * (num % den)
  if den < twice ∨ twice = den ∧ q % 2 = 1 then q + 1 else q

/-- The digits of `n * 10 ^ -places`, with a point if there are places. -/
def pointed (places n : Nat) : List Char :=
  let digits := Nat.toDigits 10 n
  let padded := List.replicate (places + 1 - digits.length) '0' ++ digits
  let split := padded.length - places
  if places = 0 then padded else padded.take split ++ '.' :: padded.drop split

/-- A number with a fixed number of places. -/
def fixed (places : Nat) (x : Float32) : String :=
  match Binary32.parts? x with
  | some d =>
    let num := d.significand * Nat.pow 2 d.exponent.toNat * Nat.pow 10 places
    let text := pointed places (roundDiv num (Nat.pow 2 (-d.exponent).toNat))
    String.ofList (if d.negative then '-' :: text else text)
  | none => if x.isNaN then "NaN" else if x < 0.0 then "-inf" else "inf"

end DistanceField.Decimal
