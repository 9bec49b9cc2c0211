import DistanceField.Node.Basic

/-!
# Flat scenes

A flat scene lists the nodes of a tree by their identifiers. A record holds what a node contributes
to the field: its kind, the parameters that are set, the identifiers of its children, and those of
the warps above it, outermost first. Names and what an editor shows are left out.

The records stand in the order in which identifiers first turned up, and a later node with the same
identifier replaces the record of an earlier one. No meaning is attached to that order.
-/

namespace DistanceField

/-- The value of a parameter. -/
inductive Setting (α : Type) where
  | scalar (value : α)
  | vector (value : Vec2 α)
  | axis (value : Axis)
  deriving DecidableEq

/-- What a flat scene holds on a node. `domainStack` names the warps above it, outermost first. -/
structure Record (α : Type) where
  id : String
  kind : Kind
  settings : List (String × Setting α)
  domainStack : List String
  children : List String
  deriving DecidableEq

/-- A tree as a table of records. The order lists all nodes, each after its children; the root is
empty where there is no tree. -/
structure Flat (α : Type) where
  records : List (String × Record α) := []
  root : String := ""
  order : List String := []

variable {α : Type}

/-! ### Settings of a node -/

/-- A parameter under its name, if it is set. -/
def Setting.named {β : Type} (name : String) (f : β → Setting α) :
    Option β → List (String × Setting α)
  | none => []
  | some value => [(name, f value)]

/-- The sizes of a shape that are set. -/
def Shape.settings : Shape α → List (String × Setting α)
  | .circle radius => Setting.named "radius" .scalar radius
  | .box size => Setting.named "size" .vector size
  | .capsule radius length =>
    Setting.named "radius" .scalar radius ++ Setting.named "length" .scalar length

def Primitive.settings (b : Primitive α) : List (String × Setting α) :=
  [("position", .vector b.position), ("rotation", .scalar b.rotation), ("scale", .vector b.scale)]
    ++ b.shape.settings

/-- The parameters that are set. -/
def Params.settings (p : Params α) : List (String × Setting α) :=
  Setting.named "opRadius" .scalar p.opRadius ++ Setting.named "thickness" .scalar p.thickness ++
    Setting.named "period" .vector p.period ++ Setting.named "axis" .axis p.axis ++
    Setting.named "offset" .scalar p.offset ++ Setting.named "strength" .scalar p.strength ++
    Setting.named "frequency" .scalar p.frequency ++
    Setting.named "amplitude" .scalar p.amplitude ++
    Setting.named "minLimit" .scalar p.minLimit ++ Setting.named "maxLimit" .scalar p.maxLimit

def Operator.settings (op : Operator α) : List (String × Setting α) :=
  ("blend", .scalar op.blend) :: op.params.settings

def Node.settings : Node α → List (String × Setting α)
  | .primitive _ body => body.settings
  | .operation _ op _ => op.settings

/-! ### Flattening -/

namespace Flat

/-- Put a record under an identifier, in place of one that is there already. -/
def insert (id : String) (r : Record α) : List (String × Record α) → List (String × Record α)
  | [] => [(id, r)]
  | (key, s) :: rest => if key = id then (id, r) :: rest else (key, s) :: insert id r rest

/-- The record of an identifier. -/
def find? (s : Flat α) (id : String) : Option (Record α) :=
  s.records.lookup id

/-- Take down a record, as the last one so far. -/
def add (s : Flat α) (r : Record α) : Flat α :=
  { s with records := insert r.id r s.records, order := s.order ++ [r.id] }

end Flat

namespace Node

/-- The warps that the children of a node are under, given those that the node is under. -/
def stackBelow (stack : List String) (n : Node α) : List String :=
  if n.category = .domain then stack ++ [n.id] else stack

/-- The record of a node under some warps. -/
def record (stack : List String) (n : Node α) : Record α where
  id := n.id
  kind := n.kind
  settings := n.settings
  domainStack := stack
  children := n.children.map Node.id

mutual

/-- Take down the records of a tree under some warps, each after those of its children. -/
def flatten (stack : List String) (out : Flat α) : Node α → Flat α
  | .primitive info body => out.add ((Node.primitive info body).record stack)
  | .operation info op children =>
    let n := Node.operation info op children
    (flattenList (n.stackBelow stack) out children).add (n.record stack)

def flattenList (stack : List String) (out : Flat α) : List (Node α) → Flat α
  | [] => out
  | n :: rest => flattenList stack (n.flatten stack out) rest

end

end Node

/-- The flat form of a scene. -/
def Flat.ofScene : Option (Node α) → Flat α
  | none => {}
  | some tree => { tree.flatten [] {} with root := tree.id }

end DistanceField
