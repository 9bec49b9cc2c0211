import DistanceField.Json.Scalar
import DistanceField.Node.Basic

/-!
# Documents of nodes

Every field of a node is written, in a fixed order; an unset one is null. The body of a node is an
object whose only key tells a shape from an operation.
-/

namespace DistanceField

/-- The document of an axis: its name. -/
def Axis.toJson (a : Axis) : Json := .text a.name

/-- The document of a category: its name. -/
def Category.toJson (c : Category) : Json := .text c.name

/-- The document of a kind: its name. -/
def Kind.toJson (k : Kind) : Json := .text k.name

variable {α : Type} [JsonScalar α]

/-- The document of a shape, tagged by its kind. -/
def Shape.toJson : Shape α → Json
  | .circle radius =>
    .record [("type", .text "circle"), ("radius", .optional JsonScalar.toJson radius)]
  | .box size => .record [("type", .text "box"), ("size", .optional Json.ofVec2 size)]
  | .capsule radius length =>
    .record [("type", .text "capsule"), ("radius", .optional JsonScalar.toJson radius),
      ("length", .optional JsonScalar.toJson length)]

/-- The document of the parameters of an operation. -/
def Params.toJson (p : Params α) : Json :=
  .record [("opRadius", .optional JsonScalar.toJson p.opRadius),
    ("thickness", .optional JsonScalar.toJson p.thickness),
    ("period", .optional Json.ofVec2 p.period),
    ("axis", .optional Axis.toJson p.axis),
    ("offset", .optional JsonScalar.toJson p.offset),
    ("strength", .optional JsonScalar.toJson p.strength),
    ("frequency", .optional JsonScalar.toJson p.frequency),
    ("amplitude", .optional JsonScalar.toJson p.amplitude),
    ("minLimit", .optional JsonScalar.toJson p.minLimit),
    ("maxLimit", .optional JsonScalar.toJson p.maxLimit)]

/-- The document of a placed shape. -/
def Primitive.toJson (b : Primitive α) : Json :=
  .record [("position", .ofVec2 b.position), ("rotation", JsonScalar.toJson b.rotation),
    ("scale", .ofVec2 b.scale), ("shape", b.shape.toJson)]

/-- The document of an operation with the documents of its children. -/
def Operator.toJson (op : Operator α) (children : List Json) : Json :=
  .record [("kind", .text op.kind.name), ("children", .array children),
    ("blend", JsonScalar.toJson op.blend), ("params", op.params.toJson)]

/-- The document of a node with the document of its body. -/
def Info.toJson (info : Info) (body : Json) : Json :=
  .record [("id", .text info.id), ("name", .optional .text info.name),
    ("visible", .bool info.visible), ("collapsed", .bool info.collapsed), ("body", body)]

namespace Node

mutual

/-- The document of a tree. -/
def toJson : Node α → Json
  | .primitive info body => info.toJson (.record [("Primitive", body.toJson)])
  | .operation info op children =>
    info.toJson (.record [("Operation", op.toJson (toJsonList children))])

/-- The documents of a list of trees. -/
def toJsonList : List (Node α) → List Json
  | [] => []
  | n :: rest => n.toJson :: toJsonList rest

end

/-- The text of a tree. -/
def encode (n : Node α) : String := n.toJson.render

end Node

end DistanceField
