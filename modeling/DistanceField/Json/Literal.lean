/-!
# String tokens

A string of a JSON text stands between quotes, with some characters escaped. Every text has one
written form, `Literal.escape`. A literal read from a text may use other escapes; it is first
scanned as it stands and then read by `Literal.unescape?`, which fails on a surrogate that has no
partner.
-/

namespace DistanceField.Literal

/-! ### Writing -/

/-- A hexadecimal digit in lower case. -/
def hexDigit (n : Nat) : Char :=
  if n < 10 then Char.ofNat (48 + n) else Char.ofNat (87 + n)

/-- A character inside quotes. Only quotes, backslashes and control characters are escaped. -/
def escapeChar (c : Char) : List Char :=
  match c with
  | '"' => ['\\', '"']
  | '\\' => ['\\', '\\']
  | '\x08' => ['\\', 'b']
  | '\x0c' => ['\\', 'f']
  | '\n' => ['\\', 'n']
  | '\r' => ['\\', 'r']
  | '\t' => ['\\', 't']
  | c =>
    if c.toNat < 0x20 then ['\\', 'u', '0', '0', hexDigit (c.toNat / 16), hexDigit (c.toNat % 16)]
    else [c]

/-- A text as it stands between quotes. -/
def escape (cs : List Char) : List Char :=
  cs.flatMap escapeChar

/-! ### Reading -/

/-- The value of a hexadecimal digit. -/
def hexValue? (c : Char) : Option Nat :=
  if '0' ≤ c ∧ c ≤ '9' then some (c.toNat - 48)
  else if 'a' ≤ c ∧ c ≤ 'f' then some (c.toNat - 87)
  else if 'A' ≤ c ∧ c ≤ 'F' then some (c.toNat - 55)
  else none

/-- The number that four hexadecimal digits spell. -/
def hexUnit? (a b c d : Char) : Option Nat := do
  return 4096 * (← hexValue? a) + 256 * (← hexValue? b) + 16 * (← hexValue? c) + (← hexValue? d)

/-- The character that a backslash and a letter stand for. -/
def simpleEscape? : Char → Option Char
  | '"' => some '"'
  | '\\' => some '\\'
  | '/' => some '/'
  | 'b' => some '\x08'
  | 'f' => some '\x0c'
  | 'n' => some '\n'
  | 'r' => some '\r'
  | 't' => some '\t'
  | _ => none

/-- The text of a literal. Two escaped surrogates make one character; one alone makes none. -/
def unescape? : List Char → Option (List Char)
  | [] => some []
  | '\\' :: 'u' :: a :: b :: c :: d :: '\\' :: 'u' :: a' :: b' :: c' :: d' :: rest => do
    let unit ← hexUnit? a b c d
    if 0xd800 ≤ unit ∧ unit < 0xdc00 then
      let low ← hexUnit? a' b' c' d'
      if 0xdc00 ≤ low ∧ low < 0xe000 then
        return Char.ofNat (0x10000 + (unit - 0xd800) * 0x400 + (low - 0xdc00)) :: (← unescape? rest)
      else none
    else if 0xdc00 ≤ unit ∧ unit < 0xe000 then none
    else return Char.ofNat unit :: (← unescape? ('\\' :: 'u' :: a' :: b' :: c' :: d' :: rest))
  | '\\' :: 'u' :: a :: b :: c :: d :: rest => do
    let unit ← hexUnit? a b c d
    if 0xd800 ≤ unit ∧ unit < 0xe000 then none
    else return Char.ofNat unit :: (← unescape? rest)
  | '\\' :: c :: rest => return (← simpleEscape? c) :: (← unescape? rest)
  | c :: rest => return c :: (← unescape? rest)

/-- The literal at the front of a text, behind its opening quote, and the text behind its closing
quote. Control characters have to be escaped, and every escape has to be complete. -/
def scan : List Char → Option (List Char × List Char)
  | [] => none
  | '"' :: rest => some ([], rest)
  | '\\' :: 'u' :: a :: b :: c :: d :: rest =>
    if (hexUnit? a b c d).isNone then none
    else (scan rest).map fun (cs, rest) => ('\\' :: 'u' :: a :: b :: c :: d :: cs, rest)
  | '\\' :: c :: rest =>
    if (simpleEscape? c).isNone then none
    else (scan rest).map fun (cs, rest) => ('\\' :: c :: cs, rest)
  | c :: rest =>
    if c.toNat < 0x20 ∨ c = '\\' then none
    else (scan rest).map fun (cs, rest) => (c :: cs, rest)

end DistanceField.Literal
