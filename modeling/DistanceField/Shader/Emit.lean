import DistanceField.Plan
import DistanceField.Shader.Program

/-!
# Shader code of a tree

Every node yields a draft: statements, and an expression for its distance. A warp binds the point
that the children are sampled at before their statements, and combining them binds one variable a
step after them. A childless operation has no statements; its distance is the sentinel.

What is printed for an operation is chosen by its kind here, apart from what a field computes for
it. That both choose alike is a theorem.
-/

namespace DistanceField.Shader

/-- How numbers are printed, and the distance where there is no surface. -/
structure Style (α : Type) where
  places : Nat
  sentinel : α

/-- Statements and the expression that they prepare. -/
structure Draft (α : Type) where
  statements : List (Statement α)
  result : Expr α

variable {α : Type}

/-! ### Numbers -/

namespace Style

/-- Numbers with four places. -/
def standard [Scalar α] : Style α := ⟨4, DistanceField.sentinel⟩

/-- A number. -/
def number (s : Style α) (value : α) : Expr α := .number s.places value

/-- A vector. -/
def vector (s : Style α) (v : Vec2 α) : Expr α :=
  .call .vec2 [s.number v.x, s.number v.y]

/-- The sentinel, with one place. -/
def absent (s : Style α) : Draft α := ⟨[], .number 1 s.sentinel⟩

end Style

namespace Draft

/-- Bind a distance to a variable, after other statements. -/
def bind (before : List (Statement α)) (target : Variable) (value : Expr α) : Draft α :=
  ⟨before ++ [.declare .float target value], .var target⟩

/-- Put other statements in front. -/
def after (before : List (Statement α)) (d : Draft α) : Draft α :=
  ⟨before ++ d.statements, d.result⟩

end Draft

/-! ### Shapes -/

variable [Scalar α]

/-- The distance to a shape at the point of a variable. -/
def shapeDistance (s : Style α) (p : Variable) : Shape α → Expr α
  | .circle radius => .call .circle [.var p, s.number (radius.getD Unset.circleRadius)]
  | .box size => .call .box [.var p, s.vector (size.getD Unset.boxSize)]
  | .capsule radius length =>
    .call .capsule [.var p, s.number (length.getD Unset.capsuleLength),
      s.number (radius.getD Unset.capsuleRadius)]

/-- The draft of a placed shape. -/
def emitPrimitive (s : Style α) (id : String) (outer : Variable) (b : Primitive α) : Draft α :=
  let p := Variable.point id
  let move := Statement.declare .vec2 p (.sub (.var outer) (s.vector b.position))
  let turn := Statement.assign p (.call .rotate [.var p, s.number b.rotation])
  Draft.bind (if Scalar.isZero b.rotation then [move] else [move, turn]) (.distance id)
    (shapeDistance s p b.shape)

/-! ### Operations -/

/-- The point that the children of a warp are sampled at, from the point of a variable. -/
def warped? (s : Style α) (p : Variable) (op : Operator α) : Option (Expr α) :=
  let params := op.params
  let isX : Expr α := .flag (params.axis.getD .x = .x)
  match op.kind with
  | .tile => some (.call .tile [.var p, s.vector (params.period.getD Unset.period)])
  | .mirror => some (.call .mirror [.var p, s.number (params.offset.getD Unset.offset), isX])
  | .bend => some (.call .bend [.var p, s.number (params.strength.getD Unset.warpStrength), isX])
  | .twist => some (.call .twist [.var p, s.number (params.strength.getD Unset.warpStrength)])
  | _ => none

/-- The statements that bind the point of the children, and the variable that holds it. -/
def emitDomain (s : Style α) (id : String) (outer : Variable) (op : Operator α) :
    List (Statement α) × Variable :=
  match warped? s outer op with
  | none => ([], outer)
  | some value => ([.declare .vec2 (.point id) value], .point id)

/-- The wave that displaces a shape on its own, times a strength. -/
def waveHeight (s : Style α) (p : Variable) (strength : α) : Expr α :=
  let wave (axis : Axis) : Expr α :=
    .call .sin [.mul (.coordinate axis (.var p)) (.number 1 waveFrequency)]
  .mul (.mul (s.number strength) (wave .x)) (wave .y)

/-- Displace a shape by the first of the others, or by a wave if there is none. -/
def emitDisplaced (s : Style α) (id : String) (p : Variable) (op : Operator α) (base : Draft α)
    (others : List (Draft α)) : Draft α :=
  let strength := op.params.strength.getD Unset.displaceStrength
  match others with
  | [] =>
    Draft.bind base.statements (.displaced id) (.add base.result (waveHeight s p strength))
  | source :: _ =>
    Draft.bind (base.statements ++ source.statements) (.displaced id)
      (.add base.result (.mul (s.number strength) source.result))

omit [Scalar α] in
/-- Combine expressions from the left, binding each step to a variable. -/
def emitSteps (combine : Expr α → Expr α → Expr α) (target : Nat → Variable) :
    Nat → Expr α → List (Expr α) → Draft α
  | _, acc, [] => ⟨[], acc⟩
  | i, acc, e :: rest =>
    let later := emitSteps combine target (i + 1) (.var (target i)) rest
    ⟨.declare .float (target i) (combine acc e) :: later.statements, later.result⟩

omit [Scalar α] in
/-- Cut the first of several shapes by the nearest of the others. -/
def emitCut (cut : Expr α → Expr α → Expr α) (id : String) (base : Expr α) :
    List (Expr α) → Draft α
  | [] => ⟨[], base⟩
  | first :: rest =>
    -- the first cutter is used as it is, so the steps are numbered from the second
    let cutter := emitSteps (fun a b => .call .min [a, b]) (.cutter id) 2 first rest
    Draft.bind cutter.statements (.result id) (cut base cutter.result)

/-- Combine the distances of the children. A blend other than zero makes the plain kinds smooth. -/
def emitCombined (s : Style α) (id : String) (op : Operator α) (d : Expr α) (ds : List (Expr α)) :
    Draft α :=
  let k := s.number op.blend
  let hard := Scalar.isZero op.blend
  let pairwise combine := emitSteps combine (.step id) 1 d ds
  match op.kind with
  | .subtract | .smoothSubtract =>
    if op.kind = .subtract ∧ hard then
      emitCut (fun base cutter => .call .max [base, .neg cutter]) id d ds
    else emitCut (fun base cutter => .call .smoothSubtraction [cutter, base, k]) id d ds
  | .intersect | .smoothIntersect =>
    if op.kind = .intersect ∧ hard then pairwise fun a b => .call .max [a, b]
    else pairwise fun a b => .call .smoothIntersection [a, b, k]
  | .xor => pairwise fun a b => .call .exclusive [a, b]
  | .group => pairwise fun a b => .call .min [a, b]
  | _ =>
    if op.kind = .smoothUnion ∨ ¬ hard then pairwise fun a b => .call .smoothUnion [a, b, k]
    else pairwise fun a b => .call .min [a, b]

/-- The combined distance as a metric operation changes it. -/
def measured? (s : Style α) (op : Operator α) (d : Expr α) : Option (Expr α) :=
  let params := op.params
  match op.kind with
  | .dilate => some (.sub d (s.number (params.opRadius.getD Unset.opRadius)))
  | .erode => some (.add d (s.number (params.opRadius.getD Unset.opRadius)))
  | .shell => some (.sub (.call .abs [d]) (s.number (params.thickness.getD Unset.thickness)))
  | .invert => some (.neg d)
  | .clamp =>
    some (.call .clamp [d, s.number (params.minLimit.getD Unset.minLimit),
      s.number (params.maxLimit.getD Unset.maxLimit)])
  | _ => none

/-- Bind the changed distance, if there is one. -/
def emitMetric (s : Style α) (id : String) (op : Operator α) (combined : Draft α) : Draft α :=
  match measured? s op combined.result with
  | none => combined
  | some value => Draft.bind combined.statements (.result id) value

/-- The draft of an operation, from the drafts of its children at the point that it binds. -/
def emitOperator (s : Style α) (id : String) (outer : Variable) (op : Operator α) :
    List (Draft α) → Draft α
  | [] => s.absent
  | d :: ds =>
    let domain := emitDomain s id outer op
    if op.kind = .displace then (emitDisplaced s id domain.2 op d ds).after domain.1
    else
      let combined := emitCombined s id op d.result (ds.map Draft.result)
      let statements := (d :: ds).flatMap Draft.statements ++ combined.statements
      (emitMetric s id op ⟨statements, combined.result⟩).after domain.1

mutual

/-- The draft of a tree at the point of a variable. -/
def emitNode (s : Style α) (outer : Variable) : Node α → Draft α
  | .primitive info body => emitPrimitive s (sanitize info.id) outer body
  | .operation info op children =>
    let id := sanitize info.id
    emitOperator s id outer op (emitList s (emitDomain s id outer op).2 children)

def emitList (s : Style α) (outer : Variable) : List (Node α) → List (Draft α)
  | [] => []
  | n :: rest => emitNode s outer n :: emitList s outer rest

end

/-- The program of a scene. -/
def Program.ofScene (s : Style α) (scene : Option (Node α)) : Program α :=
  let draft := match scene with
    | none => s.absent
    | some tree => emitNode s .input tree
  ⟨draft.statements, draft.result⟩

end DistanceField.Shader
