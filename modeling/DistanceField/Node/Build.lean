import DistanceField.Catalog
import DistanceField.Node.Basic

/-!
# Building nodes

Plain constructors leave everything unset. `Node.create` makes a node the way an editor does: it
carries its catalog label as its name, and its sizes and parameters are set to presets.
-/

namespace DistanceField

/-- The parameters that a freshly created operation has. -/
def Params.preset {α : Type} [Scalar α] : Params α where
  opRadius := some 0.1
  thickness := some 0.05
  period := some .one
  axis := some .x
  offset := some 0.0
  strength := some 0.5
  frequency := some 2.0
  amplitude := some 0.05
  minLimit := some (-1.0)
  maxLimit := some 1.0

/-- The sizes that a freshly created shape has. -/
def Shape.preset {α : Type} [Scalar α] : ShapeKind → Shape α
  | .circle => .circle (some 0.3)
  | .box => .box (some ⟨0.3, 0.2⟩)
  | .capsule => .capsule (some 0.15) (some 0.4)

/-- The shape of a kind with no size set. -/
def Shape.unset {α : Type} : ShapeKind → Shape α
  | .circle => .circle none
  | .box => .box none
  | .capsule => .capsule none none

namespace Node

variable {α : Type} [Scalar α]

/-- A shape at a position, neither turned nor scaled. -/
def place (id : String) (position : Vec2 α) (shape : Shape α) : Node α :=
  .primitive { id } { position, rotation := 0.0, scale := .one, shape }

def circle (id : String) (position : Vec2 α) (radius : α) : Node α :=
  place id position (.circle (some radius))

/-- A box by its half extents. -/
def box (id : String) (position size : Vec2 α) : Node α :=
  place id position (.box (some size))

def capsule (id : String) (position : Vec2 α) (radius length : α) : Node α :=
  place id position (.capsule (some radius) (some length))

/-- An operation that is not blended, with no parameters. -/
def combine (id : String) (kind : OpKind) (children : List (Node α) := []) : Node α :=
  .operation { id } { kind, blend := 0.0, params := {} } children

/-- A node as an editor creates it. -/
def create (kind : Kind) (id : String) (position : Vec2 α) : Node α :=
  let info : Info := { id, name := some kind.label }
  match kind with
  | .shape k =>
    .primitive info { position, rotation := 0.0, scale := .one, shape := .preset k }
  | .op k => .operation info { kind := k, blend := 0.1, params := .preset } []

/-! ### Builders

Each builder sets one part, and leaves a node that has no such part alone. -/

omit [Scalar α]

def withName (n : Node α) (name : Option String) : Node α :=
  n.mapInfo ({ · with name })

def withVisible (n : Node α) (visible : Bool) : Node α :=
  n.mapInfo ({ · with visible })

def withCollapsed (n : Node α) (collapsed : Bool) : Node α :=
  n.mapInfo ({ · with collapsed })

def withId (n : Node α) (id : String) : Node α :=
  n.mapInfo ({ · with id })

def withPosition (n : Node α) (position : Vec2 α) : Node α :=
  n.mapPrimitive ({ · with position })

def withRotation (n : Node α) (rotation : α) : Node α :=
  n.mapPrimitive ({ · with rotation })

def withScale (n : Node α) (scale : Vec2 α) : Node α :=
  n.mapPrimitive ({ · with scale })

/-- Change the sizes of a shape. -/
def mapShape (f : Shape α → Shape α) (n : Node α) : Node α :=
  n.mapPrimitive fun b => { b with shape := f b.shape }

/-- Set or unset the radius of a circle or a capsule. -/
def withRadius (n : Node α) (radius : Option α) : Node α :=
  n.mapShape fun
    | .circle _ => .circle radius
    | .capsule _ length => .capsule radius length
    | .box size => .box size

/-- Set or unset the half extents of a box. -/
def withSize (n : Node α) (size : Option (Vec2 α)) : Node α :=
  n.mapShape fun
    | .box _ => .box size
    | shape => shape

/-- Set or unset the length of a capsule. -/
def withLength (n : Node α) (length : Option α) : Node α :=
  n.mapShape fun
    | .capsule radius _ => .capsule radius length
    | shape => shape

def withBlend (n : Node α) (blend : α) : Node α :=
  n.mapOperator ({ · with blend })

/-- Change the parameters of an operation. -/
def withParams (n : Node α) (f : Params α → Params α) : Node α :=
  n.mapOperator fun op => { op with params := f op.params }

def withChildren (n : Node α) (children : List (Node α)) : Node α :=
  n.mapChildren fun _ => children

end Node

end DistanceField
