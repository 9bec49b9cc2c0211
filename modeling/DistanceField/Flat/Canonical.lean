import DistanceField.Flat.Basic
import DistanceField.Node.Encode
import DistanceField.Sha256

/-!
# Canonical text and fingerprint

The canonical text of a flat scene is its document with records and settings sorted by their keys,
so that the order in which they were collected cannot show. Lists whose order carries meaning are
written as they are. The fingerprint of a scene is the digest of that text.
-/

namespace DistanceField

variable {α : Type}

/-- Entries in the order of their keys, by code point. -/
def sortByKey {β : Type} (entries : List (String × β)) : List (String × β) :=
  entries.mergeSort fun a b => a.1 ≤ b.1

/-- The names of the settings of a record, in order. -/
def Record.settingNames (r : Record α) : List String :=
  (sortByKey r.settings).map Prod.fst

variable [JsonScalar α]

/-- The document of a parameter value. -/
def Setting.toJson : Setting α → Json
  | .scalar value => JsonScalar.toJson value
  | .vector value => .ofVec2 value
  | .axis value => value.toJson

/-- The document of a list of identifiers. -/
def Json.ids (ids : List String) : Json := .array (ids.map .text)

/-- The document of a record, with sorted settings. -/
def Record.toJson (r : Record α) : Json :=
  .record [("type", r.kind.toJson),
    ("params", .record ((sortByKey r.settings).map fun (name, s) => (name, s.toJson))),
    ("domainStack", .ids r.domainStack), ("children", .ids r.children)]

namespace Flat

/-- The document of a flat scene, with sorted records. -/
def toJson (s : Flat α) : Json :=
  .record [("rootId", .text s.root), ("evaluationOrder", .ids s.order),
    ("nodes", .record ((sortByKey s.records).map fun (id, r) => (id, r.toJson)))]

/-- The canonical text of a flat scene. -/
def canonical (s : Flat α) : String := s.toJson.render

end Flat

/-- The fingerprint of a scene. -/
def fingerprint (scene : Option (Node α)) : String :=
  Sha256.hexDigest (Flat.ofScene scene).canonical

/-! ### Recorded fingerprints -/

/-- A scene whose fingerprint is not the recorded one. The snapshot is the front of its text. -/
structure GoldenMismatch where
  name : String
  expected : String
  actual : String
  snapshot : String
  deriving DecidableEq

namespace GoldenMismatch

/-- How many characters of the canonical text are kept. -/
def snapshotLength : Nat := 300

/-- The error in words. -/
def message (e : GoldenMismatch) : String :=
  "Golden IR hash mismatch for " ++ e.name ++ "\nExpected: " ++ e.expected ++
    "\nActual:   " ++ e.actual ++ "\nIR Snapshot: " ++ e.snapshot ++ "..."

end GoldenMismatch

/-- Compare the fingerprint of a scene with a recorded one. -/
def checkGolden (name : String) (scene : Option (Node α)) (expected : String) :
    Except GoldenMismatch String :=
  let text := (Flat.ofScene scene).canonical
  let actual := Sha256.hexDigest text
  if actual = expected then .ok actual
  else .error {
    name, expected, actual,
    snapshot := String.ofList (text.toList.take GoldenMismatch.snapshotLength) }

end DistanceField
