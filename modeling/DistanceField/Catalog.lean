import DistanceField.Kind

/-!
# Catalog of kinds

What an editor shows for each kind of node: a label and an icon beside the name and the category.
-/

namespace DistanceField

/-- What the catalog holds on a kind. A fresh node is named by the label. -/
structure CatalogEntry where
  kind : Kind
  label : String
  icon : String
  deriving DecidableEq

/-- A name that no kind has. -/
structure UnknownKind where
  name : String
  deriving DecidableEq

/-- The error in words. -/
def UnknownKind.message (e : UnknownKind) : String :=
  "Unknown operator kind: " ++ e.name

/-- The label and the icon of a shape. -/
def ShapeKind.display : ShapeKind → String × String
  | .circle => ("Circle", "Circle")
  | .box => ("Box", "Square")
  | .capsule => ("Capsule", "CapsuleIcon")

/-- The label and the icon of an operation. -/
def OpKind.display : OpKind → String × String
  | .union => ("Union", "Combine")
  | .subtract => ("Subtract", "Scissors")
  | .intersect => ("Intersect", "Target")
  | .xor => ("XOR", "Layers")
  | .smoothUnion => ("Smooth Union", "Cloud")
  | .smoothSubtract => ("Smooth Subtract", "Eraser")
  | .smoothIntersect => ("Smooth Intersect", "Crosshair")
  | .tile => ("Repeat (Modulo)", "Grid")
  | .mirror => ("Mirror", "Columns2")
  | .bend => ("Bend", "Route")
  | .twist => ("Twist", "Tornado")
  | .displace => ("Displace", "Waves")
  | .dilate => ("Dilate (Expand)", "Maximize")
  | .erode => ("Erode (Round)", "Minimize")
  | .shell => ("Shell (Annular)", "CircleDashed")
  | .invert => ("Invert Field", "Contrast")
  | .clamp => ("Clamp Field", "Lock")
  | .group => ("Group", "FolderTree")

namespace Kind

def display : Kind → String × String
  | .shape k => k.display
  | .op k => k.display

def label (k : Kind) : String := k.display.1

def entry (k : Kind) : CatalogEntry :=
  ⟨k, k.display.1, k.display.2⟩

/-- The kind of a name, or the error that there is none. -/
def ofName (s : String) : Except UnknownKind Kind :=
  match ofName? s with
  | some k => .ok k
  | none => .error ⟨s⟩

end Kind

namespace Catalog

/-- All entries, in catalog order. -/
def entries : List CatalogEntry :=
  Kind.all.map Kind.entry

/-- The label of a name; names that no kind has are labelled `Node`. -/
def labelOf (name : String) : String :=
  ((Kind.ofName? name).map Kind.label).getD "Node"

end Catalog

end DistanceField
