import Mathlib
import DistanceField.Proofs.Tree

/-!
# Shader code by stages

The printer of shader code chooses by the kind of an operation, and so does the field, each for
itself. Here the printer is described by the stages that the field works from: `emitPlan` prints a
plan, and printing an operation is printing its plan. Kinds are told apart for this in three
places, one for each stage. What is shown of programs afterwards is shown of plans.
-/

namespace DistanceField.Shader

variable {α : Type}

/-! ### Printing a plan -/

/-- The warped point of a variable. -/
def warpedPoint (s : Style α) (p : Variable) : Warp α → Expr α
  | .tile period => .call .tile [.var p, s.vector period]
  | .mirror offset axis => .call .mirror [.var p, s.number offset, .flag (axis = .x)]
  | .bend strength axis => .call .bend [.var p, s.number strength, .flag (axis = .x)]
  | .twist strength => .call .twist [.var p, s.number strength]

/-- The statements that bind the warped point. -/
def emitWarp (s : Style α) (id : String) (outer : Variable) : Option (Warp α) → List (Statement α)
  | none => []
  | some warp => [.declare .vec2 (.point id) (warpedPoint s outer warp)]

/-- The variable of the point that the children of an operation are sampled at. -/
def childPoint (id : String) (outer : Variable) : Plan α → Variable
  | .displace _ => outer
  | .stages none _ _ => outer
  | .stages (some _) _ _ => .point id

/-- The draft of a fold. -/
def emitFold (s : Style α) (id : String) (d : Expr α) (ds : List (Expr α)) : Fold α → Draft α
  | .union => emitSteps (fun a b => .call .min [a, b]) (.step id) 1 d ds
  | .smoothUnion k =>
    emitSteps (fun a b => .call .smoothUnion [a, b, s.number k]) (.step id) 1 d ds
  | .intersect => emitSteps (fun a b => .call .max [a, b]) (.step id) 1 d ds
  | .smoothIntersect k =>
    emitSteps (fun a b => .call .smoothIntersection [a, b, s.number k]) (.step id) 1 d ds
  | .xor => emitSteps (fun a b => .call .exclusive [a, b]) (.step id) 1 d ds
  | .subtract => emitCut (fun base cutter => .call .max [base, .neg cutter]) id d ds
  | .smoothSubtract k =>
    emitCut (fun base cutter => .call .smoothSubtraction [cutter, base, s.number k]) id d ds

/-- The finished distance. -/
def finished (s : Style α) (d : Expr α) : Finish α → Expr α
  | .dilate radius => .sub d (s.number radius)
  | .erode radius => .add d (s.number radius)
  | .shell thickness => .sub (.call .abs [d]) (s.number thickness)
  | .invert => .neg d
  | .clamp lo hi => .call .clamp [d, s.number lo, s.number hi]

/-- The draft of a finish, after other statements. -/
def emitFinish (s : Style α) (id : String) (before : List (Statement α)) (d : Expr α) :
    Option (Finish α) → Draft α
  | none => ⟨before, d⟩
  | some finish => Draft.bind before (.result id) (finished s d finish)

/-- Statements can be put in front before or after the distance is finished. -/
lemma after_emitFinish (s : Style α) (id : String) (front before : List (Statement α))
    (d : Expr α) (finish : Option (Finish α)) :
    (emitFinish s id before d finish).after front = emitFinish s id (front ++ before) d finish := by
  cases finish <;> simp [emitFinish, Draft.bind, Draft.after]

variable [Scalar α]

/-- The draft of a plan, from the drafts of the children. -/
def emitPlan (s : Style α) (id : String) (outer : Variable) : Plan α → List (Draft α) → Draft α
  | _, [] => s.absent
  | .displace strength, [base] =>
    Draft.bind base.statements (.displaced id)
      (.add base.result (waveHeight s outer strength))
  | .displace strength, base :: source :: _ =>
    Draft.bind (base.statements ++ source.statements) (.displaced id)
      (.add base.result (.mul (s.number strength) source.result))
  | .stages warp fold finish, d :: ds =>
    let folded := emitFold s id d.result (ds.map Draft.result) fold
    let before := emitWarp s id outer warp ++ (d :: ds).flatMap Draft.statements
    emitFinish s id (before ++ folded.statements) folded.result finish

/-! ### Choosing by the kind -/

lemma warped?_eq (s : Style α) (p : Variable) (op : Operator α) :
    warped? s p op = op.warp?.map (warpedPoint s p) := by
  obtain ⟨kind, blend, params⟩ := op
  cases kind <;> rfl

lemma measured?_eq (s : Style α) (op : Operator α) (d : Expr α) :
    measured? s op d = op.finish?.map (finished s d) := by
  obtain ⟨kind, blend, params⟩ := op
  cases kind <;> rfl

lemma emitCombined_eq (s : Style α) (id : String) (op : Operator α) (d : Expr α)
    (ds : List (Expr α)) : emitCombined s id op d ds = emitFold s id d ds op.fold := by
  obtain ⟨kind, blend, params⟩ := op
  cases hard : Scalar.isZero blend <;> cases kind <;>
    simp [emitCombined, Operator.fold, emitFold, hard]

/-! ### Operations -/

lemma fst_emitDomain (s : Style α) (id : String) (outer : Variable) (op : Operator α) :
    (emitDomain s id outer op).1 = emitWarp s id outer op.warp? := by
  rw [emitDomain, warped?_eq]
  cases op.warp? <;> rfl

lemma snd_emitDomain (s : Style α) (id : String) (outer : Variable) (op : Operator α) :
    (emitDomain s id outer op).2 = childPoint id outer op.plan := by
  by_cases hkind : op.kind = .displace
  · simp [emitDomain, warped?, Operator.plan, childPoint, hkind]
  · rw [emitDomain, warped?_eq, Operator.plan, if_neg hkind]
    cases op.warp? <;> rfl

lemma emitMetric_eq (s : Style α) (id : String) (op : Operator α) (combined : Draft α) :
    emitMetric s id op combined
      = emitFinish s id combined.statements combined.result op.finish? := by
  rw [emitMetric, measured?_eq]
  cases op.finish? <;> rfl

/-- Printing an operation is printing its plan. -/
lemma emitOperator_eq_emitPlan (s : Style α) (id : String) (outer : Variable) (op : Operator α)
    (ds : List (Draft α)) :
    emitOperator s id outer op ds = emitPlan s id outer op.plan ds := by
  cases ds with
  | nil => rfl
  | cons d ds =>
    by_cases hkind : op.kind = .displace
    · have hwarp : op.warp? = none := by rw [Operator.warp?, hkind]
      rw [emitOperator, if_pos hkind, snd_emitDomain, fst_emitDomain, hwarp, Operator.plan,
        if_pos hkind]
      cases ds <;> rfl
    · simp only [emitOperator, if_neg hkind, emitMetric_eq, emitCombined_eq, fst_emitDomain,
        after_emitFinish, Operator.plan, emitPlan, List.append_assoc]

lemma emitList_eq (s : Style α) (outer : Variable) (ns : List (Node α)) :
    emitList s outer ns = ns.map (emitNode s outer) := by
  induction ns with
  | nil => rfl
  | cons n rest ih => rw [emitList, ih, List.map_cons]

lemma emitNode_operation (s : Style α) (outer : Variable) (info : Info) (op : Operator α)
    (children : List (Node α)) :
    emitNode s outer (.operation info op children)
      = emitPlan s (sanitize info.id) outer op.plan
        (children.map (emitNode s (childPoint (sanitize info.id) outer op.plan))) := by
  rw [emitNode, emitOperator_eq_emitPlan, snd_emitDomain, emitList_eq]

end DistanceField.Shader
