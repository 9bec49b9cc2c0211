/-!
# Number tokens

A number of a JSON text, taken apart into its sign, its digits and its exponent. The letter and the
sign of an exponent can be written in several ways; `Numeral.render` always writes `e+` or `e-`.
-/

namespace DistanceField

/-- A number token. The fraction is empty where there is no point. -/
structure Numeral where
  negative : Bool
  whole : List Char
  fraction : List Char
  exponent : Option Int
  deriving DecidableEq

namespace Numeral

/-- The value of a digit. -/
def digitValue (c : Char) : Nat := c.toNat - '0'.toNat

/-- The number that digits spell. -/
def natOfDigits (ds : List Char) : Nat :=
  ds.foldl (fun n c => 10 * n + digitValue c) 0

/-! ### Writing -/

/-- An exponent with its mark and sign. -/
def renderExponent : Option Int → List Char
  | none => []
  | some e => 'e' :: (if e < 0 then '-' else '+') :: Nat.toDigits 10 e.natAbs

/-- The text of a number token. -/
def render (n : Numeral) : List Char :=
  (if n.negative then ['-'] else []) ++ n.whole ++
    (if n.fraction.isEmpty then [] else '.' :: n.fraction) ++ renderExponent n.exponent

/-! ### Reading -/

/-- One or more digits. -/
def scanDigits (cs : List Char) : Option (List Char × List Char) :=
  let (ds, rest) := cs.span Char.isDigit
  if ds.isEmpty then none else some (ds, rest)

/-- The digits before the point: a zero alone, or digits that do not start with zero. -/
def scanWhole : List Char → Option (List Char × List Char)
  | '0' :: rest => some (['0'], rest)
  | cs => scanDigits cs

/-- A point with digits behind it, or nothing. -/
def scanFraction : List Char → Option (List Char × List Char)
  | '.' :: rest => scanDigits rest
  | cs => some ([], cs)

/-- The digits of an exponent, behind its sign. -/
def scanPower : List Char → Option (Int × List Char)
  | '-' :: rest => (scanDigits rest).map fun (ds, rest) => (-(natOfDigits ds : Int), rest)
  | '+' :: rest => (scanDigits rest).map fun (ds, rest) => ((natOfDigits ds : Int), rest)
  | cs => (scanDigits cs).map fun (ds, rest) => ((natOfDigits ds : Int), rest)

/-- An exponent, or nothing. -/
def scanExponent : List Char → Option (Option Int × List Char)
  | 'e' :: rest => (scanPower rest).map fun (e, rest) => (some e, rest)
  | 'E' :: rest => (scanPower rest).map fun (e, rest) => (some e, rest)
  | cs => some (none, cs)

/-- A minus sign, or nothing. -/
def scanSign : List Char → Bool × List Char
  | '-' :: rest => (true, rest)
  | cs => (false, cs)

/-- A number token at the front of a text, and the text behind it. -/
def scan (cs : List Char) : Option (Numeral × List Char) := do
  let (negative, cs) := scanSign cs
  let (whole, cs) ← scanWhole cs
  let (fraction, cs) ← scanFraction cs
  let (exponent, cs) ← scanExponent cs
  return (⟨negative, whole, fraction, exponent⟩, cs)

end Numeral

end DistanceField
