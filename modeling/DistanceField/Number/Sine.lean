import DistanceField.Number.Fields

/-!
# Sine and cosine of a binary32 angle

An angle is reduced to a number of quarter turns and a rest of at most an eighth of a turn. The
rest goes through a short polynomial in binary64, and the result is rounded to binary32 once.

Angles below 120 are reduced by one multiplication with the quarter turn. From there on the
quotient by a quarter turn is taken in fixed point, from the 96 bits of `2 / π` that can still
reach the two bits of the quarter and the 62 bits of the rest.
-/

namespace DistanceField.Angle

/-- An angle as a number of quarter turns, modulo four, and what is left, in radians. -/
structure Reduced where
  quarter : Nat
  rest : Float

/-! ### Reduction -/

/-- A quarter turn in radians. -/
def quarterTurn : Float := 1.5707963267948966

/-- Quarter turns in a radian, in units of `2 ^ -24`. -/
def quartersPerRadian : Float := 10680707.430881744

/-- A quarter turn in radians, in units of `2 ^ 62`. -/
def quarterTurnFixed : Float := 3.4061215800865545e-19

/-- The first 192 bits of `2 / π` after the binary point. -/
def twoOverPi : Nat := 0xa2f9836e4e441529fc2757d1f534ddc0db6295993c439041

/-- Reduction by the nearest number of quarter turns, for angles whose quotient fits 32 bits. -/
def reduceNear (x : Float) : Reduced :=
  let n := ((x * quartersPerRadian).toInt32.toInt + 0x800000) / 0x1000000
  ⟨(n % 4).toNat, x - Float.ofInt n * quarterTurn⟩

/-- The product with `2 / π`, modulo four, of a significand times `2 ^ (exponent - 22)`. The unit
is `2 ^ -62`. -/
def quarterTurns (significand exponent : Nat) : Nat :=
  let window := (twoOverPi >>> (120 - 8 * (exponent / 8))) % 0x1000000000000000000000000
  ((significand <<< (exponent % 8)) * window / 0x100000000) % 0x10000000000000000

/-- Reduction in fixed point of a significand times `2 ^ (exponent - 22)`. -/
def reduceFar (significand exponent : Nat) : Reduced :=
  let turns := quarterTurns significand exponent
  let n := (turns + 0x2000000000000000) / 0x4000000000000000
  let rest : Int := turns - n * 0x4000000000000000
  ⟨n % 4, Float.ofInt rest * quarterTurnFixed⟩

/-- The opposite angle. -/
def Reduced.neg (r : Reduced) : Reduced :=
  ⟨(4 - r.quarter) % 4, -r.rest⟩

/-- Reduction of a finite angle. -/
def reduce (x : Float32) : Reduced :=
  if x.abs < 120.0 then reduceNear x.toFloat
  else
    let f := Binary32.fields x
    let far := reduceFar (Binary32.Fields.leadingBit + f.fraction) (f.exponent - 128)
    if f.negative then far.neg else far

/-! ### Polynomials -/

/-- The sine of a reduced rest. -/
def sineOfRest (x : Float) : Float :=
  let x2 := x * x
  let x3 := x * x2
  let low := x + x3 * -0.16666654943701084
  low + x3 * x2 * (0.008332178146138854 + x2 * -0.00019517298981385725)

/-- The cosine of a reduced rest. -/
def cosineOfRest (x : Float) : Float :=
  let x2 := x * x
  let x4 := x2 * x2
  let low := 1.0 + x2 * -0.49999999725108224 + x4 * 0.041666623324344516
  low + x4 * x2 * (-0.001388676379437604 + x2 * 2.4390450703564542e-05)

/-- The sine of a reduced angle. -/
def Reduced.sine (r : Reduced) : Float :=
  match r.quarter with
  | 0 => sineOfRest r.rest
  | 1 => cosineOfRest r.rest
  | 2 => -sineOfRest r.rest
  | _ => -cosineOfRest r.rest

/-- The cosine of a reduced angle. -/
def Reduced.cosine (r : Reduced) : Float :=
  match r.quarter with
  | 0 => cosineOfRest r.rest
  | 1 => -sineOfRest r.rest
  | 2 => -cosineOfRest r.rest
  | _ => sineOfRest r.rest

/-! ### Functions -/

/-- Not a number: the sine and the cosine of an infinite angle. -/
def undefined : Float32 := Float32.ofBits 0x7fc00000

/-- The sine. Below `2 ^ -12` it is the angle itself, the sign of zero included. -/
def sin (x : Float32) : Float32 :=
  if x.abs < 0.000244140625 then x
  else if x.isFinite then (reduce x).sine.toFloat32
  else undefined

/-- The cosine. -/
def cos (x : Float32) : Float32 :=
  if x.isFinite then (reduce x).cosine.toFloat32 else undefined

end DistanceField.Angle
