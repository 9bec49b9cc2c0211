import DistanceField.Json.Reader
import DistanceField.Json.Scalar
import DistanceField.Node.Basic

/-!
# Nodes of documents

Reading accepts more than what is written: records may be arrays of their field values, fields may
come in any order with others between them, and unset fields may be missing. A number has to be a
number, so a tree with a NaN or an infinity in a field that has to be set is not read back.

A shape is told by a tag that may come last, so all of its document is read before the tag is known:
in a shape, unlike elsewhere, a token without a value is an error also in a field nobody asks for.
-/

namespace DistanceField

/-- The axis of a document. -/
def Axis.ofJson? (j : Json) : Option Axis := j.name?.bind Axis.ofName?

/-- The category of a document. -/
def Category.ofJson? (j : Json) : Option Category := j.name?.bind Category.ofName?

/-- The kind of shape of a document. -/
def ShapeKind.ofJson? (j : Json) : Option ShapeKind := j.name?.bind ShapeKind.ofName?

/-- The kind of operation of a document. -/
def OpKind.ofJson? (j : Json) : Option OpKind := j.name?.bind OpKind.ofName?

/-- The kind of a document. -/
def Kind.ofJson? (j : Json) : Option Kind := j.name?.bind Kind.ofName?

variable {α : Type} [JsonScalar α]

/-- The shape of a document. -/
def Shape.ofJson? (j : Json) : Option (Shape α) := do
  guard (j.isReadable α)
  let (tag, rest) ← j.tagged? "type"
  match ← ShapeKind.ofName? tag with
  | .circle =>
    let [radius] ← rest.record? ["radius"] | none
    return .circle (← Json.optional? Json.scalar? radius)
  | .box =>
    let [size] ← rest.record? ["size"] | none
    return .box (← Json.optional? Json.vec2? size)
  | .capsule =>
    let [radius, length] ← rest.record? ["radius", "length"] | none
    return .capsule (← Json.optional? Json.scalar? radius) (← Json.optional? Json.scalar? length)

/-- The parameters of a document. -/
def Params.ofJson? (j : Json) : Option (Params α) := do
  let [opRadius, thickness, period, axis, offset, strength, frequency, amplitude, minLimit,
    maxLimit] ← j.record? ["opRadius", "thickness", "period", "axis", "offset", "strength",
      "frequency", "amplitude", "minLimit", "maxLimit"] | none
  return {
    opRadius := ← Json.optional? Json.scalar? opRadius
    thickness := ← Json.optional? Json.scalar? thickness
    period := ← Json.optional? Json.vec2? period
    axis := ← Json.optional? Axis.ofJson? axis
    offset := ← Json.optional? Json.scalar? offset
    strength := ← Json.optional? Json.scalar? strength
    frequency := ← Json.optional? Json.scalar? frequency
    amplitude := ← Json.optional? Json.scalar? amplitude
    minLimit := ← Json.optional? Json.scalar? minLimit
    maxLimit := ← Json.optional? Json.scalar? maxLimit }

/-- The placed shape of a document. -/
def Primitive.ofJson? (j : Json) : Option (Primitive α) := do
  let [position, rotation, scale, shape] ←
    j.record? ["position", "rotation", "scale", "shape"] | none
  return {
    position := ← Json.required? Json.vec2? position
    rotation := ← Json.required? Json.scalar? rotation
    scale := ← Json.required? Json.vec2? scale
    shape := ← Json.required? Shape.ofJson? shape }

/-- The operation of a document and the documents of its children. -/
def Operator.ofJson? (j : Json) : Option (Operator α × List Json) := do
  let [kind, children, blend, params] ← j.record? ["kind", "children", "blend", "params"] | none
  let op : Operator α := {
    kind := ← Json.required? OpKind.ofJson? kind
    blend := ← Json.required? Json.scalar? blend
    params := ← Json.required? Params.ofJson? params }
  return (op, ← Json.required? Json.items? children)

/-- What a node carries, and the document of its body. -/
def Info.ofJson? (j : Json) : Option (Info × Json) := do
  let [id, name, visible, collapsed, body] ←
    j.record? ["id", "name", "visible", "collapsed", "body"] | none
  let info : Info := {
    id := ← Json.required? Json.text? id
    name := ← Json.optional? Json.text? name
    visible := ← Json.required? Json.bool? visible
    collapsed := ← Json.required? Json.bool? collapsed }
  return (info, ← body)

namespace Node

/-- The tree of a document that is nested at most to a given depth. -/
def ofJsonUpTo? : Nat → Json → Option (Node α)
  | 0, _ => none
  | depth + 1, j => do
    let (info, body) ← Info.ofJson? j
    match ← body.single? with
    | ("Primitive", body) => return .primitive info (← Primitive.ofJson? body)
    | ("Operation", body) =>
      let (op, children) ← Operator.ofJson? body
      return .operation info op (← children.mapM (ofJsonUpTo? depth))
    | _ => none

/-- The tree of a document. -/
def ofJson? (j : Json) : Option (Node α) :=
  ofJsonUpTo? j.depth j

/-- The tree of a text. -/
def decode? (s : String) : Option (Node α) :=
  (Json.parse? s).bind ofJson?

end Node

end DistanceField
