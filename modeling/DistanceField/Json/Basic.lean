import DistanceField.Json.Literal
import DistanceField.Json.Numeral

/-!
# JSON documents

A document keeps its number and string tokens as they are written, and its fields in order, with
repetitions. What a token means is asked when it is used, so a field that nobody asks for may hold
a number out of range.
-/

namespace DistanceField

/-- A JSON document. Strings and the keys of fields are kept as what stands between their quotes. -/
inductive Json where
  | null
  | bool (value : Bool)
  | number (token : Numeral)
  | string (literal : List Char)
  | array (items : List Json)
  | object (fields : List (List Char × Json))

namespace Json

/-! ### Making documents -/

/-- The document of a text. -/
def text (s : String) : Json := .string (Literal.escape s.toList)

/-- The document of a record. -/
def record (fields : List (String × Json)) : Json :=
  .object (fields.map fun (name, value) => (Literal.escape name.toList, value))

/-- The document of a value that may be absent. -/
def optional {β : Type} (f : β → Json) : Option β → Json
  | none => .null
  | some b => f b

/-- The document of a count. -/
def count (n : Nat) : Json := .number ⟨false, Nat.toDigits 10 n, [], none⟩

/-! ### Writing -/

/-- Items with commas between them. -/
def commaSeparated : List (List Char) → List Char
  | [] => []
  | [item] => item
  | item :: rest => item ++ ',' :: commaSeparated rest

/-- A literal between quotes. -/
def quote (literal : List Char) : List Char :=
  '"' :: literal ++ ['"']

mutual

/-- The text of a document, without blanks. -/
def chars : Json → List Char
  | .null => ['n', 'u', 'l', 'l']
  | .bool true => ['t', 'r', 'u', 'e']
  | .bool false => ['f', 'a', 'l', 's', 'e']
  | .number token => token.render
  | .string literal => quote literal
  | .array items => '[' :: commaSeparated (itemChars items) ++ [']']
  | .object fields => '\x7b' :: commaSeparated (fieldChars fields) ++ ['\x7d']

/-- The texts of a list of documents. -/
def itemChars : List Json → List (List Char)
  | [] => []
  | item :: rest => item.chars :: itemChars rest

/-- The texts of a list of fields. -/
def fieldChars : List (List Char × Json) → List (List Char)
  | [] => []
  | (key, value) :: rest => (quote key ++ ':' :: value.chars) :: fieldChars rest

end

/-- The text of a document, without blanks. -/
def render (j : Json) : String := String.ofList j.chars

/-! ### Depth -/

mutual

/-- How deep arrays and objects are nested. -/
def depth : Json → Nat
  | .array items => depthItems items + 1
  | .object fields => depthFields fields + 1
  | _ => 0

/-- The largest depth of a list of documents. -/
def depthItems : List Json → Nat
  | [] => 0
  | item :: rest => max item.depth (depthItems rest)

/-- The largest depth of a list of fields. -/
def depthFields : List (List Char × Json) → Nat
  | [] => 0
  | (_, value) :: rest => max value.depth (depthFields rest)

end

end Json

end DistanceField
