import DistanceField.Json.Basic

/-!
# Reading JSON

`Json.parse?` reads exactly one document, with blanks around its tokens. It is strict: no comma
stands behind a last item, numbers have no leading zeros, and nothing follows the document.

The functions below recurse on a bound for the number of steps. Each step takes a character off the
text or follows one that did, so twice the length of the text is always enough.
-/

namespace DistanceField.Json

/-- Whether a character may stand between tokens. -/
def isBlank (c : Char) : Bool :=
  c = ' ' ∨ c = '\t' ∨ c = '\n' ∨ c = '\r'

/-- The text behind its leading blanks. -/
def skipBlanks (cs : List Char) : List Char :=
  cs.dropWhile isBlank

mutual

/-- A document at the front of a text, and the text behind it. -/
def scanValue : Nat → List Char → Option (Json × List Char)
  | 0, _ => none
  | steps + 1, cs =>
    match skipBlanks cs with
    | 'n' :: 'u' :: 'l' :: 'l' :: rest => some (.null, rest)
    | 't' :: 'r' :: 'u' :: 'e' :: rest => some (.bool true, rest)
    | 'f' :: 'a' :: 'l' :: 's' :: 'e' :: rest => some (.bool false, rest)
    | '"' :: rest => (Literal.scan rest).map fun (literal, rest) => (.string literal, rest)
    | '[' :: rest =>
      match skipBlanks rest with
      | ']' :: rest => some (.array [], rest)
      | rest => (scanItems steps rest).map fun (items, rest) => (.array items, rest)
    | '\x7b' :: rest =>
      match skipBlanks rest with
      | '\x7d' :: rest => some (.object [], rest)
      | rest => (scanFields steps rest).map fun (fields, rest) => (.object fields, rest)
    | rest => (Numeral.scan rest).map fun (token, rest) => (.number token, rest)

/-- One or more items up to a closing bracket, and the text behind it. -/
def scanItems : Nat → List Char → Option (List Json × List Char)
  | 0, _ => none
  | steps + 1, cs => do
    let (item, rest) ← scanValue steps cs
    match skipBlanks rest with
    | ',' :: rest =>
      let (items, rest) ← scanItems steps rest
      return (item :: items, rest)
    | ']' :: rest => return ([item], rest)
    | _ => none

/-- One or more fields up to a closing brace, and the text behind it. -/
def scanFields : Nat → List Char → Option (List (List Char × Json) × List Char)
  | 0, _ => none
  | steps + 1, cs => do
    let '"' :: rest := skipBlanks cs | none
    let (key, rest) ← Literal.scan rest
    let ':' :: rest := skipBlanks rest | none
    let (value, rest) ← scanValue steps rest
    match skipBlanks rest with
    | ',' :: rest =>
      let (fields, rest) ← scanFields steps rest
      return ((key, value) :: fields, rest)
    | '\x7d' :: rest => return ([(key, value)], rest)
    | _ => none

end

/-- The document of a text. -/
def parseChars? (cs : List Char) : Option Json := do
  let (document, rest) ← scanValue (2 * cs.length + 2) cs
  if (skipBlanks rest).isEmpty then some document else none

/-- The document of a text. -/
def parse? (s : String) : Option Json :=
  parseChars? s.toList

end DistanceField.Json
