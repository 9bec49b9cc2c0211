import DistanceField.Node.Build

/-!
# Built-in scenes

Four small scenes for regression: warps over siblings, the order of siblings, no warp, and nested
warps. The demo scene is what an editor starts with.
-/

namespace DistanceField.Scene

variable {α : Type} [Scalar α]

/-- A small circle on the right. -/
def rightCircle : Node α := .circle "c1" ⟨0.2, 0.0⟩ 0.1

/-- A small box on the upper left. -/
def leftBox : Node α := .box "c2" ⟨-0.2, 0.2⟩ ⟨0.1, 0.1⟩

/-- A reflection at the left. -/
def leftMirror (id : String) (children : List (Node α)) : Node α :=
  ((Node.combine id .mirror children).withName (some "Golden: Mirror Siblings")).withParams
    ({ · with axis := some .x, offset := some (-0.5) })

/-- A reflection over a circle and a box. -/
def mirrorSiblings : Node α := leftMirror "mirror-root" [rightCircle, leftBox]

/-- The same reflection with its children exchanged. -/
def reorderSiblings : Node α := leftMirror "mirror-reordered" [leftBox, rightCircle]

/-- A union without a warp. -/
def noDomain : Node α := .combine "union-root" .union [rightCircle, leftBox]

/-- A circle under a bend, a reflection and a repetition. -/
def deepNesting : Node α :=
  let leaf : Node α := .circle "leaf" ⟨0.1, 0.1⟩ 0.05
  let bend := (Node.combine "inner-bend" .bend [leaf]).withParams ({ · with strength := some 0.5 })
  let mirror := (Node.combine "mid-mirror" .mirror [bend]).withParams ({ · with axis := some .y })
  (Node.combine "deep-root" .tile [mirror]).withParams ({ · with period := some ⟨2.0, 2.0⟩ })

/-- A shape as an editor creates it. -/
def fresh (kind : ShapeKind) (id : String) (x y : α) : Node α :=
  .create (.shape kind) id ⟨x, y⟩

/-- A reflection as an editor creates it, on an axis. -/
def freshMirror (id : String) (axis : Axis) (children : List (Node α)) : Node α :=
  ((Node.create (.op .mirror) id .zero).withParams ({ · with axis := some axis })).withChildren
    children

/-- A node with a name and an offset. -/
def titled (name : String) (offset : α) (n : Node α) : Node α :=
  (n.withName (some name)).withParams ({ · with offset := some offset })

/-- A union of three reflections: over two siblings, over a group, and over another reflection. -/
def demo : Node α :=
  let first := titled "1: Parent Mirror + 2 Siblings" (-0.8)
    (freshMirror "test1" .x
      [fresh .capsule "t1-capsule" (-0.5) 0.6, fresh .circle "t1-circle" (-0.6) 0.3])
  let group := (Node.create (.op .group) "t2-group" .zero).withChildren
    [fresh .box "t2-box1" 0.5 (-0.6), fresh .box "t2-box2" 0.65 (-0.4)]
  let second := titled "2: Parent Mirror + Nested Group" 0.8 (freshMirror "test2" .x [group])
  let inner := freshMirror "t3-mirror" .x [fresh .circle "t3-core" 0.2 (-0.2)]
  let third := titled "3: Composed Mirrors" (-0.4) (freshMirror "test3" .y [inner])
  (((Node.create (.op .union) "scene" .zero).withName
    (some "Domain Inheritance Regression Suite")).withBlend 0.0).withChildren [first, second, third]

/-- The built-in scenes by name. -/
def all : List (String × Node α) :=
  [("mirror_siblings", mirrorSiblings), ("reorder_siblings", reorderSiblings),
    ("no_domain", noDomain), ("deep_nesting", deepNesting), ("demo_scene", demo)]

/-- The names of the built-in scenes. -/
def names : List String :=
  ["mirror_siblings", "reorder_siblings", "no_domain", "deep_nesting", "demo_scene"]

/-- The scene of a name. -/
def ofName? (name : String) : Option (Node α) := all.lookup name

end DistanceField.Scene
