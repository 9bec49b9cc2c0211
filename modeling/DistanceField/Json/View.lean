import DistanceField.Json.Basic

/-!
# Reading values out of documents

A record is written as an object or as the array of its field values. In an object, fields that the
record does not have are passed over; a field that occurs twice is an error, and so is a key that
is no text. A name that stands for a value is a text, or an object that maps it to null.
-/

namespace DistanceField.Json

/-- The text of a literal. -/
def literalText? (literal : List Char) : Option String :=
  (Literal.unescape? literal).map String.ofList

/-- The text of a string. -/
def text? : Json → Option String
  | .string literal => literalText? literal
  | _ => none

/-- The truth value. -/
def bool? : Json → Option Bool
  | .bool b => some b
  | _ => none

/-- The items of an array. -/
def items? : Json → Option (List Json)
  | .array items => some items
  | _ => none

/-- The fields of an object with their keys as texts. -/
def members? (fields : List (List Char × Json)) : Option (List (String × Json)) :=
  fields.mapM fun (key, value) => (literalText? key).map (·, value)

/-- The one value of a key, if there is any; an error if there are several. -/
def field? (members : List (String × Json)) (name : String) : Option (Option Json) :=
  match members.filter (·.1 == name) with
  | [] => some none
  | [(_, value)] => some (some value)
  | _ => none

/-- The values of the named fields of a record, each of which may be missing. -/
def record? (names : List String) : Json → Option (List (Option Json))
  | .object fields => do names.mapM (field? (← members? fields))
  | .array items => if items.length = names.length then some (items.map some) else none
  | _ => none

/-- The only field of an object. -/
def single? : Json → Option (String × Json)
  | .object [(key, value)] => (literalText? key).map (·, value)
  | _ => none

/-- A name that stands for a value. -/
def name? (j : Json) : Option String :=
  match j.text? with
  | some s => some s
  | none =>
    match j.single? with
    | some (s, .null) => some s
    | _ => none

/-- The tag of a record and the record without it. The tag is a field of the object, or the first
item of the array. -/
def tagged? (tag : String) : Json → Option (String × Json)
  | .object fields => do
    let some value ← field? (← members? fields) tag | none
    let rest := fields.filter fun (key, _) => literalText? key != some tag
    return (← value.text?, .object rest)
  | .array (first :: rest) => do return (← first.text?, .array rest)
  | _ => none

/-! ### Fields -/

/-- A field that has to be there. -/
def required? {β : Type} (f : Json → Option β) : Option Json → Option β
  | none => none
  | some j => f j

/-- A field that may be missing or null. -/
def optional? {β : Type} (f : Json → Option β) : Option Json → Option (Option β)
  | none => some none
  | some .null => some none
  | some j => (f j).map some

end DistanceField.Json
