import DistanceField.Kind
import DistanceField.Vec2

/-!
# Nodes

A scene is a tree. Its leaves are basic shapes placed in the plane, and its inner nodes are
operations on an ordered list of nodes. Sizes and parameters may be unset; what an unset one stands
for is decided where it is used, never in the tree.

The numbers of a tree are of any type `α`: editing, checking and flattening never look at them.
-/

namespace DistanceField

/-- What every node carries: the identifier that edits find it by, and how an editor shows it. The
children of a collapsed node are folded away. -/
structure Info where
  id : String
  name : Option String := none
  visible : Bool := true
  collapsed : Bool := false
  deriving DecidableEq

/-- A basic shape with its sizes. A box has half extents, and a capsule is a vertical segment
thickened by a radius. -/
inductive Shape (α : Type) where
  | circle (radius : Option α)
  | box (size : Option (Vec2 α))
  | capsule (radius length : Option α)
  deriving BEq, DecidableEq

/-- A shape placed in the plane. The rotation is in radians. -/
structure Primitive (α : Type) where
  position : Vec2 α
  rotation : α
  scale : Vec2 α
  shape : Shape α
  deriving BEq, DecidableEq

/-- The parameters of an operation. Which of them matter depends on its kind: a boundary is moved by
`opRadius`, a shell reaches to either side by `thickness`, and a reflection folds the plane at
`offset`. -/
structure Params (α : Type) where
  opRadius : Option α := none
  thickness : Option α := none
  period : Option (Vec2 α) := none
  axis : Option Axis := none
  offset : Option α := none
  strength : Option α := none
  frequency : Option α := none
  amplitude : Option α := none
  minLimit : Option α := none
  maxLimit : Option α := none
  deriving BEq, DecidableEq

/-- An operation without its children. They are blended over a band of the width `blend`. -/
structure Operator (α : Type) where
  kind : OpKind
  blend : α
  params : Params α
  deriving BEq, DecidableEq

/-- A node of a scene. -/
inductive Node (α : Type) where
  | primitive (info : Info) (body : Primitive α)
  | operation (info : Info) (op : Operator α) (children : List (Node α))

def Shape.kind {α : Type} : Shape α → ShapeKind
  | .circle _ => .circle
  | .box _ => .box
  | .capsule _ _ => .capsule

/-- Whether no parameter is set. -/
def Params.isEmpty {α : Type} (p : Params α) : Bool :=
  p.opRadius.isNone && p.thickness.isNone && p.period.isNone && p.axis.isNone && p.offset.isNone &&
    p.strength.isNone && p.frequency.isNone && p.amplitude.isNone && p.minLimit.isNone &&
    p.maxLimit.isNone

namespace Node

variable {α : Type}

/-! ### The parts of a node -/

def info : Node α → Info
  | .primitive info _ => info
  | .operation info _ _ => info

def id (n : Node α) : String := n.info.id

/-- The children of the node, in order. -/
def children : Node α → List (Node α)
  | .primitive _ _ => []
  | .operation _ _ children => children

def kind : Node α → Kind
  | .primitive _ body => .shape body.shape.kind
  | .operation _ op _ => .op op.kind

def category (n : Node α) : Category := n.kind.category

/-- Whether the node is a basic shape. -/
def isPrimitive : Node α → Bool
  | .primitive _ _ => true
  | .operation _ _ _ => false

/-- Change what the node carries. -/
def mapInfo (f : Info → Info) : Node α → Node α
  | .primitive info body => .primitive (f info) body
  | .operation info op children => .operation (f info) op children

/-- Change the list of children; a basic shape has none. -/
def mapChildren (f : List (Node α) → List (Node α)) : Node α → Node α
  | .primitive info body => .primitive info body
  | .operation info op children => .operation info op (f children)

/-- Change the placed shape; an operation has none. -/
def mapPrimitive (f : Primitive α → Primitive α) : Node α → Node α
  | .primitive info body => .primitive info (f body)
  | .operation info op children => .operation info op children

/-- Change the operation; a basic shape has none. -/
def mapOperator (f : Operator α → Operator α) : Node α → Node α
  | .primitive info body => .primitive info body
  | .operation info op children => .operation info (f op) children

@[simp] theorem children_primitive (info : Info) (body : Primitive α) :
    (Node.primitive info body).children = [] := rfl

@[simp] theorem children_operation (info : Info) (op : Operator α) (cs : List (Node α)) :
    (Node.operation info op cs).children = cs := rfl

/-- Whether a child has the identifier. -/
def hasChild (id : String) (n : Node α) : Bool :=
  n.children.any (·.id == id)

/-! ### The whole tree -/

mutual

/-- The nodes of the tree, each before its children. -/
def preorder : Node α → List (Node α)
  | .primitive info body => [.primitive info body]
  | .operation info op children => .operation info op children :: preorderList children

/-- The nodes of a list of trees, each before its children. -/
def preorderList : List (Node α) → List (Node α)
  | [] => []
  | n :: rest => n.preorder ++ preorderList rest

end

def size (n : Node α) : Nat := n.preorder.length

mutual

/-- Whether two trees agree in every field. -/
def beq [BEq α] : Node α → Node α → Bool
  | .primitive i₁ b₁, .primitive i₂ b₂ => i₁ == i₂ && b₁ == b₂
  | .operation i₁ o₁ c₁, .operation i₂ o₂ c₂ => i₁ == i₂ && o₁ == o₂ && beqList c₁ c₂
  | _, _ => false

/-- Whether two lists of trees agree in every field. -/
def beqList [BEq α] : List (Node α) → List (Node α) → Bool
  | [], [] => true
  | a :: as, b :: bs => a.beq b && beqList as bs
  | _, _ => false

end

instance [BEq α] : BEq (Node α) := ⟨beq⟩

end Node

end DistanceField
