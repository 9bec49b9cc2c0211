/-!
# Kinds of nodes

A node is a basic shape or an operation on the nodes below it. Every kind has a name, by which
documents refer to it, and belongs to a category.
-/

namespace DistanceField

/-- The part that a kind of node plays in a scene. It is a shape, it combines shapes, warps the
plane below it or changes the distance itself, or it only arranges others. -/
inductive Category where
  | primitive
  | boolean
  | domain
  | metric
  | utility
  deriving DecidableEq

/-- The basic shapes. -/
inductive ShapeKind where
  | circle
  | box
  | capsule
  deriving DecidableEq

/-- The operations. -/
inductive OpKind where
  | union
  | subtract
  | intersect
  | xor
  | smoothUnion
  | smoothSubtract
  | smoothIntersect
  | tile
  | mirror
  | bend
  | twist
  | displace
  | dilate
  | erode
  | shell
  | invert
  | clamp
  | group
  deriving DecidableEq

/-- The kind of a node. -/
inductive Kind where
  | shape (kind : ShapeKind)
  | op (kind : OpKind)
  deriving DecidableEq

/-! ### Names and categories -/

namespace Category

def name : Category → String
  | .primitive => "Primitive"
  | .boolean => "Boolean"
  | .domain => "Domain"
  | .metric => "Metric"
  | .utility => "Utility"

def all : List Category :=
  [.primitive, .boolean, .domain, .metric, .utility]

def ofName? (s : String) : Option Category :=
  all.find? (·.name == s)

end Category

namespace ShapeKind

def name : ShapeKind → String
  | .circle => "circle"
  | .box => "box"
  | .capsule => "capsule"

/-- All shapes, in catalog order. -/
def all : List ShapeKind :=
  [.circle, .box, .capsule]

def ofName? (s : String) : Option ShapeKind :=
  all.find? (·.name == s)

end ShapeKind

namespace OpKind

/-- The name of an operation. -/
def name : OpKind → String
  | .union => "union"
  | .subtract => "subtract"
  | .intersect => "intersect"
  | .xor => "xor"
  | .smoothUnion => "smooth_union"
  | .smoothSubtract => "smooth_subtract"
  | .smoothIntersect => "smooth_intersect"
  | .tile => "repeat"
  | .mirror => "mirror"
  | .bend => "bend"
  | .twist => "twist"
  | .displace => "displace"
  | .dilate => "dilate"
  | .erode => "erode"
  | .shell => "shell"
  | .invert => "invert"
  | .clamp => "clamp"
  | .group => "group"

/-- All operations, in catalog order. -/
def all : List OpKind :=
  [.union, .subtract, .intersect, .xor, .smoothUnion, .smoothSubtract, .smoothIntersect,
    .tile, .mirror, .bend, .twist, .displace,
    .dilate, .erode, .shell, .invert, .clamp, .group]

def ofName? (s : String) : Option OpKind :=
  all.find? (·.name == s)

def category : OpKind → Category
  | .union | .subtract | .intersect | .xor
  | .smoothUnion | .smoothSubtract | .smoothIntersect => .boolean
  | .tile | .mirror | .bend | .twist | .displace => .domain
  | .dilate | .erode | .shell | .invert | .clamp => .metric
  | .group => .utility

end OpKind

namespace Kind

def name : Kind → String
  | .shape k => k.name
  | .op k => k.name

def category : Kind → Category
  | .shape _ => .primitive
  | .op k => k.category

/-- All kinds, in catalog order: the shapes, then the operations. -/
def all : List Kind :=
  ShapeKind.all.map .shape ++ OpKind.all.map .op

def ofName? (s : String) : Option Kind :=
  all.find? (·.name == s)

/-- The place of a kind in catalog order. -/
def index (k : Kind) : Nat :=
  all.idxOf k

end Kind

end DistanceField
