import Mathlib
import DistanceField.Number.Binary32
import DistanceField.Proofs.Shader.Stages

/-!
# Relevant parameters

A kind of operation reads some of the parameters and passes over the rest, and one that it reads
but finds unset stands for a fixed value. `Node.relevant` writes this down on the tree: it sets
every parameter that is read and erases all else. The field and the program of a tree stay the same,
so they can be told apart for two trees only by what is relevant of them.

The fixed values are not the ones that an editor gives to a new node.
-/

namespace DistanceField

variable {α : Type} [Scalar α]

/-! ### What a node reads -/

/-- The parameters that a kind reads, each of them set, and no others. -/
def Params.relevant (p : Params α) : OpKind → Params α
  | .tile => { period := some (p.period.getD ⟨1.0, 1.0⟩) }
  | .mirror => { offset := some (p.offset.getD 0.0), axis := some (p.axis.getD .x) }
  | .bend => { strength := some (p.strength.getD 1.0), axis := some (p.axis.getD .x) }
  | .twist => { strength := some (p.strength.getD 1.0) }
  | .displace => { strength := some (p.strength.getD 0.5) }
  | .dilate | .erode => { opRadius := some (p.opRadius.getD 0.1) }
  | .shell => { thickness := some (p.thickness.getD 0.05) }
  | .clamp => { minLimit := some (p.minLimit.getD (-1.0)), maxLimit := some (p.maxLimit.getD 1.0) }
  | .union | .subtract | .intersect | .xor | .smoothUnion | .smoothSubtract | .smoothIntersect
  | .invert | .group => {}

/-- The blend, or zero for a kind that does not blend. -/
def Operator.relevantBlend (op : Operator α) : α :=
  match op.kind with
  | .xor | .group | .displace => 0.0
  | _ => op.blend

def Operator.relevant (op : Operator α) : Operator α where
  kind := op.kind
  blend := op.relevantBlend
  params := op.params.relevant op.kind

/-- The shape with all of its sizes set. -/
def Shape.relevant : Shape α → Shape α
  | .circle radius => .circle (some (radius.getD 0.5))
  | .box size => .box (some (size.getD ⟨0.5, 0.5⟩))
  | .capsule radius length => .capsule (some (radius.getD 0.1)) (some (length.getD 0.5))

def Primitive.relevant (b : Primitive α) : Primitive α :=
  { b with scale := .one, shape := b.shape.relevant }

namespace Node

mutual

/-- The tree with what the field depends on, and nothing else. -/
def relevant : Node α → Node α
  | .primitive info body => .primitive { id := info.id } body.relevant
  | .operation info op children => .operation { id := info.id } op.relevant (relevantList children)

def relevantList : List (Node α) → List (Node α)
  | [] => []
  | n :: rest => n.relevant :: relevantList rest

end

lemma relevantList_eq (ns : List (Node α)) : relevantList ns = ns.map relevant := by
  induction ns with
  | nil => rfl
  | cons n rest ih => rw [relevantList, ih, List.map_cons]

@[simp] lemma relevant_primitive (info : Info) (body : Primitive α) :
    (Node.primitive info body).relevant = .primitive { id := info.id } body.relevant := by
  simp only [relevant]

@[simp] lemma relevant_operation (info : Info) (op : Operator α) (children : List (Node α)) :
    (Node.operation info op children).relevant
      = .operation { id := info.id } op.relevant (children.map relevant) := by
  simp only [relevant, relevantList_eq]

end Node

/-! ### Nothing else is read -/

namespace Operator

lemma warp?_relevant (op : Operator α) : op.relevant.warp? = op.warp? := by
  obtain ⟨kind, blend, params⟩ := op
  cases kind <;> rfl

/-- A displacement is the one operation that passes over its fold. -/
lemma fold_relevant {op : Operator α} (h : op.kind ≠ .displace) : op.relevant.fold = op.fold := by
  obtain ⟨kind, blend, params⟩ := op
  cases kind with
  | displace => exact absurd rfl h
  | _ => rfl

lemma finish?_relevant (op : Operator α) : op.relevant.finish? = op.finish? := by
  obtain ⟨kind, blend, params⟩ := op
  cases kind <;> rfl

lemma plan_relevant (op : Operator α) : op.relevant.plan = op.plan := by
  have hkind : op.relevant.kind = op.kind := rfl
  by_cases h : op.kind = .displace
  · have hstrength : op.relevant.params.strength = some (op.params.strength.getD 0.5) := by
      rw [relevant, h, Params.relevant]
    rw [plan, plan, if_pos h, if_pos (hkind.trans h), hstrength, Option.getD_some]
    rfl
  · rw [plan, plan, if_neg h, if_neg (hkind ▸ h), warp?_relevant, fold_relevant h,
      finish?_relevant]

end Operator

lemma Primitive.eval_relevant (b : Primitive α) (p : Vec2 α) :
    b.relevant.eval p = b.eval p := by
  obtain ⟨position, rotation, scale, shape⟩ := b
  cases shape <;> rfl

namespace Shader

lemma emitPrimitive_relevant (s : Style α) (id : String) (outer : Variable) (b : Primitive α) :
    emitPrimitive s id outer b.relevant = emitPrimitive s id outer b := by
  obtain ⟨position, rotation, scale, shape⟩ := b
  cases shape <;> rfl

end Shader

/-! ### The field and the program -/

namespace Node

lemma eval_relevant (n : Node α) (p : Vec2 α) : n.relevant.eval p = n.eval p := by
  induction n generalizing p with
  | primitive info body =>
    rw [relevant_primitive, eval, eval, Primitive.eval_relevant]
  | operation info op children ih =>
    rw [relevant_operation, eval, eval, evalList_eq, evalList_eq, Operator.plan_relevant,
      List.map_map]
    refine congrArg _ (List.map_congr_left ?_)
    intro c hc
    exact ih c hc _

open Shader in
lemma emitNode_relevant (s : Style α) (outer : Variable) (n : Node α) :
    emitNode s outer n.relevant = emitNode s outer n := by
  induction n generalizing outer with
  | primitive info body =>
    rw [relevant_primitive, emitNode, emitNode, emitPrimitive_relevant]
  | operation info op children ih =>
    rw [relevant_operation, emitNode_operation, emitNode_operation, Operator.plan_relevant,
      List.map_map]
    refine congrArg _ (List.map_congr_left ?_)
    intro c hc
    exact ih c hc _

open Shader in
/-- Trees that agree in what is relevant have the same program in every style, and the same
distance at every point. -/
theorem program_and_field_eq_of_relevant_eq {t₁ t₂ : Node α} (h : t₁.relevant = t₂.relevant) :
    (∀ s : Style α, Program.ofScene s (some t₁) = Program.ofScene s (some t₂)) ∧
      ∀ p : Vec2 α, Field.eval (some t₁) p = Field.eval (some t₂) p := by
  constructor
  · intro s
    simp only [Program.ofScene]
    rw [← emitNode_relevant s .input t₁, h, emitNode_relevant]
  · intro p
    simp only [Field.eval]
    rw [← eval_relevant t₁, h, eval_relevant]

/-- A bent disc of which nothing is set. -/
def bentDisc : Node Float32 :=
  .operation { id := "bend" } { kind := .bend, blend := 0.0, params := {} }
    [.operation { id := "one" } { kind := .xor, blend := 0.0, params := {} }
      [.primitive { id := "disc" }
        { position := .zero, rotation := 0.0, scale := .one, shape := .circle none }]]

/-- The same disc with the values that unset ones stand for, a name, a scale, and a blend and
parameters that bends and exclusive unions do not read. -/
def spelledOutDisc : Node Float32 :=
  .operation { id := "bend", name := some "Bend", collapsed := true }
    { kind := .bend, blend := 0.0
      params :=
        { strength := some 1.0, axis := some .x, offset := some 3.0, frequency := some 2.0 } }
    [.operation { id := "one", visible := false }
      { kind := .xor, blend := 0.5, params := { strength := some 0.5 } }
      [.primitive { id := "disc" }
        { position := .zero, rotation := 0.0, scale := ⟨2.0, 2.0⟩, shape := .circle (some 0.5) }]]

open Shader in
theorem program_and_field_bentDisc :
    bentDisc ≠ spelledOutDisc ∧ bentDisc.relevant = spelledOutDisc.relevant ∧
    Program.ofScene .standard (some bentDisc) = Program.ofScene .standard (some spelledOutDisc) ∧
    Field.eval (some bentDisc) ⟨0.25, 0.5⟩ = Field.eval (some spelledOutDisc) ⟨0.25, 0.5⟩ := by
  have hne : bentDisc ≠ spelledOutDisc := by
    intro h
    have hcollapsed : bentDisc.info.collapsed = spelledOutDisc.info.collapsed := by rw [h]
    exact Bool.false_ne_true hcollapsed
  have hrelevant : bentDisc.relevant = spelledOutDisc.relevant := by
    simp [bentDisc, spelledOutDisc, Operator.relevant, Operator.relevantBlend, Params.relevant,
      Primitive.relevant, Shape.relevant]
  have h := program_and_field_eq_of_relevant_eq hrelevant
  exact ⟨hne, hrelevant, h.1 _, h.2 _⟩

end Node

end DistanceField
