import DistanceField.Decimal.Shortest
import DistanceField.Json.View
import DistanceField.Vec2

/-!
# Numbers in documents

A binary32 number is written as its shortest decimal, positional from `0.000001` up to thirteen
digits before the point and with an exponent otherwise. NaN and the infinities have no number
token; they are written as null.

A whole number of up to 64 bits is read to the nearest binary32 number. Any other token is read in
binary64 first: its leading digits, as many as fit 64 bits, are scaled by a power of ten in one
multiplication or division. A token out of the range of binary64 is an error.
-/

namespace DistanceField

/-- Numbers that have a form in documents. -/
class JsonScalar (α : Type) where
  toJson : α → Json
  ofNumeral? : Numeral → Option α

namespace Numeral

/-! ### Writing -/

/-- The exponents of the leading digit for which a decimal is written without an exponent. -/
def positional (e : Int) : Bool := -6 ≤ e ∧ e ≤ 12

/-- The token of a decimal. A positional token has digits on both sides of the point. -/
def ofDecimal (negative : Bool) (d : Decimal) : Numeral :=
  let digits := Nat.toDigits 10 d.digits
  let leading := d.exponent + digits.length - 1
  if ¬ positional leading then ⟨negative, digits.take 1, digits.drop 1, some leading⟩
  else if 0 ≤ d.exponent then
    ⟨negative, digits ++ List.replicate d.exponent.toNat '0', ['0'], none⟩
  else if 0 ≤ leading then
    ⟨negative, digits.take (leading.toNat + 1), digits.drop (leading.toNat + 1), none⟩
  else ⟨negative, ['0'], List.replicate (-leading - 1).toNat '0' ++ digits, none⟩

/-- The token of a finite binary32 number. -/
def ofBinary32? (x : Float32) : Option Numeral :=
  (Binary32.parts? x).map fun d =>
    ofDecimal d.negative (if d.significand = 0 then ⟨0, 0⟩ else Decimal.shortest d)

/-! ### Reading -/

/-- The leading digits that fit 64 bits, after those already taken, and how many are left. -/
def takeSignificand (taken : Nat) : List Char → Nat × Nat
  | [] => (taken, 0)
  | c :: rest =>
    let next := 10 * taken + digitValue c
    if next < UInt64.size then takeSignificand next rest else (taken, rest.length + 1)

/-- A power of ten that binary64 holds. -/
def powerOfTen (e : Nat) : Float := Float.ofScientific 1 false e

/-- Division by a power of ten, in steps that stay in range. -/
def shrink (f : Float) (e : Nat) : Float :=
  if h : e ≤ 308 then f / powerOfTen e
  else if f == 0.0 then f
  else shrink (f / powerOfTen 308) (e - 308)
termination_by e

/-- The significand scaled by a power of ten; none when it is out of range. -/
def scale? (significand : Nat) (e : Int) : Option Float :=
  let f := Float.ofNat significand
  if e < 0 then some (shrink f e.natAbs)
  else if 308 < e then if f == 0.0 then some f else none
  else
    let scaled := f * powerOfTen e.toNat
    if scaled.isInf then none else some scaled

/-- The binary64 number of a token. -/
def binary64? (n : Numeral) : Option Float :=
  let (whole, dropped) := takeSignificand 0 n.whole
  let (significand, unread) := takeSignificand whole n.fraction
  let taken := n.fraction.length - unread
  (scale? significand (n.exponent.getD 0 + dropped - taken)).map fun f =>
    if n.negative then -f else f

/-- The integer of a token that has neither point nor exponent and fits 64 bits. A negative zero is
no integer. -/
def integer? (n : Numeral) : Option Int :=
  let m := natOfDigits n.whole
  if n.fraction ≠ [] ∨ n.exponent ≠ none then none
  else if n.negative then if 0 < m ∧ m ≤ Int64.size / 2 then some (-m) else none
  else if m < UInt64.size then some m else none

/-- The binary32 number of a token. -/
def binary32? (n : Numeral) : Option Float32 :=
  match n.integer? with
  | some m => some (Float32.ofInt m)
  | none => n.binary64?.map Binary32.ofBinary64

end Numeral

instance : JsonScalar Float32 where
  toJson x := Json.optional .number (Numeral.ofBinary32? x)
  ofNumeral? := Numeral.binary32?

namespace Json

variable {α : Type} [JsonScalar α]

/-- The number of a document. -/
def scalar? : Json → Option α
  | .number token => JsonScalar.ofNumeral? token
  | _ => none

/-- The document of a vector: an array of its coordinates. -/
def ofVec2 (v : Vec2 α) : Json :=
  .array [JsonScalar.toJson v.x, JsonScalar.toJson v.y]

/-- The vector of a document. -/
def vec2? : Json → Option (Vec2 α)
  | .array [x, y] => do return ⟨← x.scalar?, ← y.scalar?⟩
  | _ => none

/-! ### Documents without unread tokens -/

mutual

/-- Whether every number and string in a document has a value. -/
def isReadable (α : Type) [JsonScalar α] : Json → Bool
  | .number token => (JsonScalar.ofNumeral? (α := α) token).isSome
  | .string literal => (literalText? literal).isSome
  | .array items => areReadable α items
  | .object fields => fieldsReadable α fields
  | _ => true

/-- Whether every number and string in a list of documents has a value. -/
def areReadable (α : Type) [JsonScalar α] : List Json → Bool
  | [] => true
  | item :: rest => item.isReadable α && areReadable α rest

/-- Whether every number and string in a list of fields has a value. -/
def fieldsReadable (α : Type) [JsonScalar α] : List (List Char × Json) → Bool
  | [] => true
  | (key, value) :: rest =>
    (literalText? key).isSome && value.isReadable α && fieldsReadable α rest

end

end Json

end DistanceField
