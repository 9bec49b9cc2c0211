import Mathlib
import DistanceField.Node.Build
import DistanceField.Number.Binary32
import DistanceField.Proofs.Flat.Lookup
import DistanceField.Proofs.Node.WellFormed
import DistanceField.Proofs.Shader.Names
import DistanceField.Proofs.Shader.Stages

/-!
# The layout of a program

The statements of a node stand in two places. A warp binds its point in front of the statements of
the children, and everything else comes behind them. With the points of warps taken out, a program
is a sequence of blocks, one for each node that has statements, and the blocks follow the evaluation
order of the flat form. No shape is passed over, and a point that is taken out stands in front of
all that is below its warp.

A displacement reads two children only, so trees where one has more are left out.
-/

namespace DistanceField

variable {α : Type}

open Shader (Statement Variable Style Draft Expr sanitize)

/-! ### Statements of a node -/

/-- Whether a node is an operation that moves the point of its children. -/
def Node.isWarp : Node α → Bool
  | .primitive _ _ => false
  | .operation _ op _ =>
    match op.kind with
    | .tile | .mirror | .bend | .twist => true
    | _ => false

/-- The variables for the points of the warps of a tree. -/
def Node.warpPoints (tree : Node α) : List Variable :=
  (tree.preorder.filter isWarp).map fun n => .point (sanitize n.id)

/-- A statement is of the node that its name is made from. -/
def Shader.Statement.IsOf (st : Statement α) (n : Node α) : Prop :=
  st.target.owner? = some (sanitize n.id)

/-- Whether a statement declares the point of a warp. -/
def Shader.Statement.declaresWarp (tree : Node α) : Statement α → Bool
  | .declare _ target _ => target ∈ tree.warpPoints
  | .assign _ _ => false

namespace Shader.Statement

lemma isOf_of_target {st : Statement α} {n : Node α} (h : st.target = .point (sanitize n.id)) :
    st.IsOf n := by
  rw [IsOf, h]
  rfl

lemma IsOf.sanitize_eq {st : Statement α} {m n : Node α} (hm : st.IsOf m) (hn : st.IsOf n) :
    sanitize m.id = sanitize n.id :=
  Option.some.inj (hm.symm.trans hn)

end Shader.Statement

/-- Trees whose nodes are told apart by the names of variables, and where a displacement has no
child that it does not read. -/
structure Node.Tidy (tree : Node α) : Prop where
  nodup : tree.sanitizedIds.Nodup
  withinLimit : tree.WithinLimit

namespace Node

lemma sanitize_mem_sanitizedIds {n m : Node α} (h : m ∈ n.preorder) :
    sanitize m.id ∈ n.sanitizedIds :=
  List.mem_map_of_mem (List.mem_map_of_mem h)

lemma Tidy.arity_self {n : Node α} (h : n.Tidy) :
    n.kind = .op .displace → n.children.length ≤ 2 :=
  h.withinLimit n n.self_mem_preorder

lemma Tidy.child {n c : Node α} (h : n.Tidy) (hc : c ∈ n.children) : c.Tidy where
  nodup := h.nodup.sublist
    ((ids_sublist (mem_preorder_of_mem_children hc c.self_mem_preorder)).map sanitize)
  withinLimit := (withinLimit_iff.mp h.withinLimit).2 c hc

end Node

/-- A node and consecutive statements. -/
structure Block (α : Type) where
  node : Node α
  statements : List (Statement α)

variable [Scalar α]

namespace Plan

/-- The statements in front of those of the children. -/
def opening (s : Style α) (id : String) (outer : Variable) : Plan α → List (Statement α)
  | .displace _ => []
  | .stages warp _ _ => Shader.emitWarp s id outer warp

/-- The statements behind those of the children, whose distances are given. -/
def closing (s : Style α) (id : String) (outer : Variable) :
    Plan α → List (Expr α) → List (Statement α)
  | _, [] => []
  | .displace strength, [base] =>
    [.declare .float (.displaced id) (.add base (Shader.waveHeight s outer strength))]
  | .displace strength, base :: source :: _ =>
    [.declare .float (.displaced id) (.add base (.mul (s.number strength) source))]
  | .stages _ fold finish, d :: ds =>
    let folded := Shader.emitFold s id d ds fold
    (Shader.emitFinish s id folded.statements folded.result finish).statements

lemma statements_emitPlan (s : Style α) (id : String) (outer : Variable) {plan : Plan α}
    {d : Draft α} {ds : List (Draft α)}
    (h : ∀ strength, plan = .displace strength → ds.length ≤ 1) :
    (Shader.emitPlan s id outer plan (d :: ds)).statements
      = plan.opening s id outer ++ (d :: ds).flatMap Draft.statements
        ++ plan.closing s id outer ((d :: ds).map Draft.result) := by
  match plan, ds with
  | .displace strength, [] => simp [Shader.emitPlan, Draft.bind, opening, closing]
  | .displace strength, [source] => simp [Shader.emitPlan, Draft.bind, opening, closing]
  | .displace strength, _ :: _ :: _ =>
    have hlength := h strength rfl
    simp at hlength
  | .stages warp fold none, ds =>
    simp [Shader.emitPlan, Shader.emitFinish, opening, closing]
  | .stages warp fold (some finish), ds =>
    simp [Shader.emitPlan, Shader.emitFinish, Draft.bind, opening, closing]

end Plan

namespace Node

/-- The variable of the point that the children of a node are sampled at. -/
def childPoint (outer : Variable) : Node α → Variable
  | .primitive _ _ => outer
  | .operation info op _ => Shader.childPoint (sanitize info.id) outer op.plan

/-- The statements of a node in front of those of its children. -/
def opening (s : Style α) (outer : Variable) : Node α → List (Statement α)
  | .primitive _ _ => []
  | .operation _ _ [] => []
  | .operation info op (_ :: _) => op.plan.opening s (sanitize info.id) outer

/-- The statements of a node behind those of its children. -/
def closing (s : Style α) (outer : Variable) : Node α → List (Statement α)
  | .primitive info body => (Shader.emitPrimitive s (sanitize info.id) outer body).statements
  | .operation info op children =>
    op.plan.closing s (sanitize info.id) outer (children.map fun c =>
      (Shader.emitNode s (Shader.childPoint (sanitize info.id) outer op.plan) c).result)

lemma statements_emitNode (s : Style α) (outer : Variable) {n : Node α}
    (h : n.kind = .op .displace → n.children.length ≤ 2) :
    (Shader.emitNode s outer n).statements
      = n.opening s outer
        ++ n.children.flatMap (fun c => (Shader.emitNode s (n.childPoint outer) c).statements)
        ++ n.closing s outer := by
  match n with
  | .primitive info body => simp [Shader.emitNode, opening, closing]
  | .operation info op [] =>
    simp [Shader.emitNode_operation, Shader.emitPlan, Style.absent, opening, closing,
      Plan.closing]
  | .operation info op (c :: cs) =>
    rw [Shader.emitNode_operation, List.map_cons, Plan.statements_emitPlan]
    · simp [opening, closing, childPoint, List.flatMap_map, Function.comp_def]
    · intro strength hplan
      rw [Operator.plan] at hplan
      split_ifs at hplan with hkind
      have hlength := h (congrArg Kind.op hkind)
      simpa using hlength

/-! ### Where names come from -/

lemma opening_of_isWarp (s : Style α) (outer : Variable) {n : Node α} (h : n.isWarp = true)
    (hchildren : n.children ≠ []) :
    ∃ value, n.opening s outer = [.declare .vec2 (.point (sanitize n.id)) value] := by
  match n with
  | .operation info op [] => exact absurd rfl hchildren
  | .operation info op (c :: cs) =>
    obtain ⟨kind, blend, params⟩ := op
    cases kind <;> simp only [isWarp, Bool.false_eq_true] at h <;> exact ⟨_, rfl⟩

lemma opening_of_not_isWarp (s : Style α) (outer : Variable) {n : Node α} (h : n.isWarp = false) :
    n.opening s outer = [] := by
  match n with
  | .primitive info body => rfl
  | .operation info op [] => rfl
  | .operation info op (c :: cs) =>
    obtain ⟨kind, blend, params⟩ := op
    cases kind <;> simp only [isWarp, Bool.true_eq_false] at h <;> rfl

lemma mem_opening {s : Style α} {outer : Variable} {n : Node α} {st : Statement α}
    (h : st ∈ n.opening s outer) :
    n.isWarp = true ∧ ∃ value, st = .declare .vec2 (.point (sanitize n.id)) value := by
  cases hwarp : n.isWarp with
  | false =>
    rw [opening_of_not_isWarp s outer hwarp] at h
    cases h
  | true =>
    have hchildren : n.children ≠ [] := by
      intro hnil
      match n with
      | .operation info op [] => cases h
    obtain ⟨value, hopening⟩ := opening_of_isWarp s outer hwarp hchildren
    rw [hopening] at h
    exact ⟨rfl, value, List.mem_singleton.mp h⟩

end Node

namespace Shader

omit [Scalar α] in
lemma target_emitSteps {combine : Expr α → Expr α → Expr α} {target : Nat → Variable} {i : Nat}
    {acc : Expr α} {es : List (Expr α)} {st : Statement α}
    (h : st ∈ (emitSteps combine target i acc es).statements) : ∃ j, st.target = target j := by
  induction es generalizing i acc with
  | nil => cases h
  | cons e rest ih =>
    rcases List.mem_cons.mp h with rfl | h
    · exact ⟨i, rfl⟩
    · exact ih h

omit [Scalar α] in
lemma target_emitFold {s : Style α} {id : String} {d : Expr α} {ds : List (Expr α)}
    {fold : Fold α} {st : Statement α} (h : st ∈ (emitFold s id d ds fold).statements) :
    st.target.owner? = some id ∧ st.target ≠ .point id := by
  have hcut : ∀ {cut}, st ∈ (emitCut cut id d ds).statements →
      st.target.owner? = some id ∧ st.target ≠ .point id := by
    intro cut hst
    cases ds with
    | nil => cases hst
    | cons first rest =>
      rcases List.mem_append.mp hst with hst | hst
      · obtain ⟨j, hj⟩ := target_emitSteps hst
        simp [hj, Variable.owner?]
      · obtain rfl := List.mem_singleton.mp hst
        simp [Statement.target, Variable.owner?]
  cases fold with
  | subtract => exact hcut h
  | smoothSubtract blend => exact hcut h
  | _ =>
    obtain ⟨j, hj⟩ := target_emitSteps h
    simp [hj, Variable.owner?]

lemma target_closing {s : Style α} {id : String} {outer : Variable} {plan : Plan α}
    {es : List (Expr α)} {st : Statement α} (h : st ∈ plan.closing s id outer es) :
    st.target.owner? = some id ∧ st.target ≠ .point id := by
  match plan, es with
  | .displace strength, [] | .stages warp fold finish, [] => cases h
  | .displace strength, [base] =>
    obtain rfl := List.mem_singleton.mp h
    simp [Statement.target, Variable.owner?]
  | .displace strength, base :: source :: _ =>
    obtain rfl := List.mem_singleton.mp h
    simp [Statement.target, Variable.owner?]
  | .stages warp fold none, d :: ds =>
    simp only [Plan.closing, emitFinish] at h
    exact target_emitFold h
  | .stages warp fold (some finish), d :: ds =>
    simp only [Plan.closing, emitFinish, Draft.bind] at h
    rcases List.mem_append.mp h with h | h
    · exact target_emitFold h
    · obtain rfl := List.mem_singleton.mp h
      simp [Statement.target, Variable.owner?]

lemma statements_emitPrimitive (s : Style α) (id : String) (outer : Variable) (b : Primitive α) :
    ∃ place turn distance, (emitPrimitive s id outer b).statements
      = .declare .vec2 (.point id) place
        :: (if Scalar.isZero b.rotation then []
          else [.assign (.point id) (.call .rotate [.var (.point id), turn])])
        ++ [.declare .float (.distance id) distance] := by
  refine ⟨.sub (.var outer) (s.vector b.position), s.number b.rotation,
    shapeDistance s (.point id) b.shape, ?_⟩
  rw [emitPrimitive, Draft.bind]
  split_ifs <;> rfl

end Shader

namespace Node

lemma isOf_of_mem_closing {s : Style α} {outer : Variable} {n : Node α} {st : Statement α}
    (h : st ∈ n.closing s outer) : st.IsOf n := by
  cases n with
  | primitive info body =>
    obtain ⟨place, turn, distance, hst⟩ :=
      Shader.statements_emitPrimitive s (sanitize info.id) outer body
    rw [closing, hst] at h
    split_ifs at h <;> simp at h
    · rcases h with rfl | rfl <;> rfl
    · rcases h with rfl | rfl | rfl <;> rfl
  | operation info op children => exact (Shader.target_closing h).1

lemma isOf_of_mem_opening {s : Style α} {outer : Variable} {n : Node α} {st : Statement α}
    (h : st ∈ n.opening s outer) : st.IsOf n := by
  obtain ⟨-, value, rfl⟩ := mem_opening h
  rfl

/-- A warp declares its point only once. -/
lemma target_ne_of_mem_closing {s : Style α} {outer : Variable} {n : Node α} (hn : n.isWarp = true)
    {st : Statement α} (h : st ∈ n.closing s outer) : st.target ≠ .point (sanitize n.id) := by
  cases n with
  | primitive info body => cases hn
  | operation info op children => exact (Shader.target_closing h).2

/-! ### Blocks -/

mutual

/-- The nodes of a tree in evaluation order, each with its statements behind those of its
children. -/
def blocks (s : Style α) (outer : Variable) : Node α → List (Block α)
  | .primitive info body =>
    let n := Node.primitive info body
    [⟨n, n.closing s outer⟩]
  | .operation info op children =>
    let n := Node.operation info op children
    blocksList s (n.childPoint outer) children ++ [⟨n, n.closing s outer⟩]

def blocksList (s : Style α) (outer : Variable) : List (Node α) → List (Block α)
  | [] => []
  | n :: rest => n.blocks s outer ++ blocksList s outer rest

end

lemma blocksList_eq (s : Style α) (outer : Variable) (ns : List (Node α)) :
    blocksList s outer ns = ns.flatMap (blocks s outer) := by
  induction ns with
  | nil => rfl
  | cons n rest ih => rw [blocksList, ih, List.flatMap_cons]

lemma blocks_eq (s : Style α) (outer : Variable) (n : Node α) :
    n.blocks s outer
      = n.children.flatMap (blocks s (n.childPoint outer)) ++ [⟨n, n.closing s outer⟩] := by
  cases n with
  | primitive info body => rfl
  | operation info op children => rw [blocks, blocksList_eq]; rfl

lemma map_node_blocks (s : Style α) (outer : Variable) (n : Node α) :
    (n.blocks s outer).map Block.node = n.postorder := by
  induction n using induction_on_children generalizing outer with
  | step n ih =>
    rw [blocks_eq, postorder_eq, List.map_append, List.map_flatMap,
      List.flatMap_congr fun c hc => ih c hc _]
    rfl

lemma exists_closing_of_mem_blocks {s : Style α} {outer : Variable} {n : Node α} {b : Block α}
    (h : b ∈ n.blocks s outer) : ∃ outer', b.statements = b.node.closing s outer' := by
  induction n using induction_on_children generalizing outer with
  | step n ih =>
    rw [blocks_eq, List.mem_append, List.mem_flatMap, List.mem_singleton] at h
    rcases h with ⟨c, hc, hb⟩ | rfl
    · exact ih c hc hb
    · exact ⟨outer, rfl⟩

/-- What is kept of a program is in blocks, if points of warps are not kept and all else is. -/
lemma filter_statements {s : Style α} {keep : Statement α → Bool} {n : Node α} (h : n.Tidy)
    (hopening : ∀ m ∈ n.preorder, ∀ outer, ∀ st ∈ m.opening s outer, keep st = false)
    (hclosing : ∀ m ∈ n.preorder, ∀ outer, ∀ st ∈ m.closing s outer, keep st = true)
    (outer : Variable) :
    (Shader.emitNode s outer n).statements.filter keep
      = (n.blocks s outer).flatMap Block.statements := by
  induction n using induction_on_children generalizing outer with
  | step n ih =>
    have hself := n.self_mem_preorder
    have hfirst : (n.opening s outer).filter keep = [] := by
      simpa using hopening n hself outer
    have hlast : (n.closing s outer).filter keep = n.closing s outer := by
      simpa using hclosing n hself outer
    have hchildren : ∀ c ∈ n.children,
        (Shader.emitNode s (n.childPoint outer) c).statements.filter keep
          = (c.blocks s (n.childPoint outer)).flatMap Block.statements := by
      intro c hc
      exact ih c hc (h.child hc)
        (fun m hm => hopening m (mem_preorder_of_mem_children hc hm))
        (fun m hm => hclosing m (mem_preorder_of_mem_children hc hm)) _
    rw [statements_emitNode s outer h.arity_self, blocks_eq, List.filter_append,
      List.filter_append, hfirst, hlast, List.filter_flatMap, List.flatMap_congr hchildren]
    simp [List.flatMap_assoc]

/-! ### What stands in front of what -/

lemma exists_mem_opening_or_closing {s : Style α} {outer : Variable} {n : Node α} (h : n.Tidy)
    {st : Statement α} (hst : st ∈ (Shader.emitNode s outer n).statements) :
    ∃ m ∈ n.preorder, ∃ outer', st ∈ m.opening s outer' ∨ st ∈ m.closing s outer' := by
  induction n using induction_on_children generalizing outer with
  | step n ih =>
    rw [statements_emitNode s outer h.arity_self, List.mem_append, List.mem_append,
      List.mem_flatMap] at hst
    rcases hst with (hst | ⟨c, hc, hst⟩) | hst
    · exact ⟨n, n.self_mem_preorder, outer, .inl hst⟩
    · obtain ⟨m, hm, outer', hst⟩ := ih c hc (h.child hc) hst
      exact ⟨m, mem_preorder_of_mem_children hc hm, outer', hst⟩
    · exact ⟨n, n.self_mem_preorder, outer, .inr hst⟩

/-- Statements of trees are not of a node whose identifier does not occur there. -/
lemma not_isOf_of_notMem {s : Style α} {outer : Variable} {ds : List (Node α)} {m : Node α}
    (h : ∀ d ∈ ds, d.Tidy) (hm : sanitize m.id ∉ ds.flatMap sanitizedIds) {st : Statement α}
    (hst : st ∈ ds.flatMap fun d => (Shader.emitNode s outer d).statements) : ¬ st.IsOf m := by
  intro hof
  obtain ⟨d, hd, hst⟩ := List.mem_flatMap.mp hst
  obtain ⟨k, hk, outer', hst⟩ := exists_mem_opening_or_closing (h d hd) hst
  have hk' : st.IsOf k := hst.elim isOf_of_mem_opening isOf_of_mem_closing
  refine hm (List.mem_flatMap.mpr ⟨d, hd, ?_⟩)
  rw [← hk'.sanitize_eq hof]
  exact sanitize_mem_sanitizedIds hk

/-- The statements of a child stand together, and no others are of the nodes below it. -/
lemma exists_append_child (s : Style α) (outer : Variable) {n c : Node α} (h : n.Tidy)
    (hc : c ∈ n.children) :
    ∃ front back, (Shader.emitNode s outer n).statements
        = front ++ (Shader.emitNode s (n.childPoint outer) c).statements ++ back ∧
      ∀ st ∈ front ++ back, ∀ m ∈ c.preorder, ¬ st.IsOf m := by
  obtain ⟨before, after, hsplit⟩ := List.append_of_mem hc
  have htidy : ∀ d ∈ before ++ c :: after, d.Tidy := fun d hd => h.child (hsplit ▸ hd)
  have hnodup := h.nodup
  rw [sanitizedIds_eq, List.nodup_cons, hsplit, List.flatMap_append, List.flatMap_cons] at hnodup
  obtain ⟨hself, hnodup⟩ := hnodup
  obtain ⟨-, hrest, hbefore⟩ := List.nodup_append'.mp hnodup
  obtain ⟨-, -, hafter⟩ := List.nodup_append'.mp hrest
  have hown : ∀ st : Statement α, st.IsOf n → ∀ m ∈ c.preorder, ¬ st.IsOf m := by
    intro st hn m hm hof
    apply hself
    rw [hn.sanitize_eq hof]
    simp [sanitize_mem_sanitizedIds hm]
  refine ⟨n.opening s outer
      ++ before.flatMap (fun d => (Shader.emitNode s (n.childPoint outer) d).statements),
    after.flatMap (fun d => (Shader.emitNode s (n.childPoint outer) d).statements)
      ++ n.closing s outer, ?_, ?_⟩
  · rw [statements_emitNode s outer h.arity_self, hsplit]
    simp
  · intro st hst m hm
    have hmem := sanitize_mem_sanitizedIds hm
    rcases List.mem_append.mp hst with hst | hst <;> rcases List.mem_append.mp hst with hst | hst
    · exact hown st (isOf_of_mem_opening hst) m hm
    · exact not_isOf_of_notMem (fun d hd => htidy d (by simp [hd]))
        (fun hb => hbefore hb (List.mem_append_left _ hmem)) hst
    · exact not_isOf_of_notMem (fun d hd => htidy d (by simp [hd])) (hafter hmem) hst
    · exact hown st (isOf_of_mem_closing hst) m hm

/-- The point of a warp is bound once, and in front of everything below the warp. -/
lemma exists_append_warp (s : Style α) (outer : Variable) {n k : Node α} (h : n.Tidy)
    (hk : k ∈ n.preorder) (hwarp : k.isWarp = true) (hchildren : k.children ≠ []) :
    ∃ before value after, (Shader.emitNode s outer n).statements
        = before ++ .declare .vec2 (.point (sanitize k.id)) value :: after ∧
      (∀ st ∈ before ++ after, st.target ≠ .point (sanitize k.id)) ∧
      ∀ st ∈ before, ∀ m ∈ k.children.flatMap preorder, ¬ st.IsOf m := by
  induction n using induction_on_children generalizing outer with
  | step n ih =>
    rw [preorder_eq, List.mem_cons, List.mem_flatMap] at hk
    rcases hk with rfl | ⟨c, hc, hk⟩
    · obtain ⟨value, hopening⟩ := opening_of_isWarp s outer hwarp hchildren
      refine ⟨[], value, k.children.flatMap (fun c =>
        (Shader.emitNode s (k.childPoint outer) c).statements) ++ k.closing s outer, ?_, ?_, ?_⟩
      · simp [statements_emitNode s outer h.arity_self, hopening]
      · intro st hst htarget
        have hnodup := h.nodup
        rw [sanitizedIds_eq, List.nodup_cons] at hnodup
        rw [List.nil_append] at hst
        rcases List.mem_append.mp hst with hst | hst
        · have hof : st.IsOf k := Statement.isOf_of_target htarget
          exact not_isOf_of_notMem (fun _ => h.child) hnodup.1 hst hof
        · exact target_ne_of_mem_closing hwarp hst htarget
      · intro st hst
        cases hst
    · obtain ⟨front, back, hsplit, hothers⟩ := exists_append_child s outer h hc
      obtain ⟨before, value, after, hstatements, honce, hfirst⟩ :=
        ih c hc (n.childPoint outer) (h.child hc) hk
      refine ⟨front ++ before, value, after ++ back, by simp [hsplit, hstatements], ?_, ?_⟩
      · intro st hst htarget
        by_cases hinner : st ∈ before ++ after
        · exact honce st hinner htarget
        · have houter : st ∈ front ++ back := by grind
          exact hothers st houter k hk (Statement.isOf_of_target htarget)
      · intro st hst m hm
        rcases List.mem_append.mp hst with hst | hst
        · obtain ⟨d, hd, hm⟩ := List.mem_flatMap.mp hm
          have hmc : m ∈ c.preorder :=
            (preorder_sublist hk).subset (mem_preorder_of_mem_children hd hm)
          exact hothers st (List.mem_append_left _ hst) m hmc
        · exact hfirst st hst m hm

/-! ### Warps and what is left without their points -/

lemma declaresWarp_of_mem_opening {tree n : Node α} (hn : n ∈ tree.preorder) {s : Style α}
    {outer : Variable} {st : Statement α} (h : st ∈ n.opening s outer) :
    st.declaresWarp tree = true := by
  obtain ⟨hwarp, value, rfl⟩ := mem_opening h
  have hpoint : Variable.point (sanitize n.id) ∈ tree.warpPoints :=
    List.mem_map_of_mem (f := fun n => Variable.point (sanitize n.id))
      (List.mem_filter.mpr ⟨hn, hwarp⟩)
  simpa [Statement.declaresWarp] using hpoint

omit [Scalar α] in
lemma exists_warp_of_declaresWarp {tree : Node α} {st : Statement α}
    (h : st.declaresWarp tree = true) :
    ∃ k ∈ tree.preorder, k.isWarp = true ∧ st.target = .point (sanitize k.id) := by
  cases st with
  | assign target value => cases h
  | declare type target value =>
    obtain ⟨k, hk, htarget⟩ := List.mem_map.mp (of_decide_eq_true h)
    obtain ⟨hk, hwarp⟩ := List.mem_filter.mp hk
    exact ⟨k, hk, hwarp, htarget.symm⟩

lemma declaresWarp_of_mem_closing {tree n : Node α} (htree : tree.Tidy) (hn : n ∈ tree.preorder)
    {s : Style α} {outer : Variable} {st : Statement α} (h : st ∈ n.closing s outer) :
    st.declaresWarp tree = false := by
  rw [← Bool.not_eq_true]
  intro hdeclares
  obtain ⟨k, hk, hwarp, htarget⟩ := exists_warp_of_declaresWarp hdeclares
  obtain rfl : n = k := eq_of_sanitize_eq htree.nodup hn hk
    ((isOf_of_mem_closing h).sanitize_eq (Statement.isOf_of_target htarget))
  exact target_ne_of_mem_closing hwarp h htarget

/-- Only a warp with children has its point declared. -/
lemma children_ne_nil_of_declares {tree k : Node α} (htree : tree.Tidy) (hk : k ∈ tree.preorder)
    (hwarp : k.isWarp = true) {s : Style α} {outer : Variable} {st : Statement α}
    (hst : st ∈ (Shader.emitNode s outer tree).statements)
    (htarget : st.target = .point (sanitize k.id)) : k.children ≠ [] := by
  intro hnil
  obtain ⟨m, hm, outer', hst⟩ := exists_mem_opening_or_closing htree hst
  obtain rfl : m = k := eq_of_sanitize_eq htree.nodup hm hk
    ((hst.elim isOf_of_mem_opening isOf_of_mem_closing).sanitize_eq
      (Statement.isOf_of_target htarget))
  rcases hst with hst | hst
  · match m with
    | .operation info op [] => cases hst
  · exact target_ne_of_mem_closing hwarp hst htarget

/-- The point of a warp is bound nowhere else, and in front of all that is below the warp. -/
lemma point_bound_first_of_declaresWarp {tree : Node α} (htree : tree.Tidy) {s : Style α}
    {outer : Variable} {st : Statement α} {before after : List (Statement α)}
    (hst : (Shader.emitNode s outer tree).statements = before ++ st :: after)
    (hdeclares : st.declaresWarp tree = true) :
    (∀ u ∈ before ++ after, u.target ≠ st.target) ∧
    ∃ n ∈ tree.preorder, n.isWarp = true ∧ st.target = .point (sanitize n.id) ∧
      ∀ m ∈ n.children.flatMap preorder, ∀ u ∈ before, ¬ u.IsOf m := by
  obtain ⟨k, hk, hwarp, htarget⟩ := exists_warp_of_declaresWarp hdeclares
  have hmem : st ∈ (Shader.emitNode s outer tree).statements := by simp [hst]
  have hchildren := children_ne_nil_of_declares htree hk hwarp hmem htarget
  obtain ⟨front, value, back, hsplit, honce, hfirst⟩ :=
    exists_append_warp s outer htree hk hwarp hchildren
  have hnot : st ∉ front ++ back := fun h => honce st h htarget
  rw [List.mem_append, not_or] at hnot
  -- a statement that binds the point stands only where the declaration does
  obtain ⟨rfl, rfl, rfl⟩ :=
    (List.append_cons_inj_of_notMem hnot.1 hnot.2).mp (hsplit.symm.trans hst)
  refine ⟨fun u hu => ?_, k, hk, hwarp, htarget, fun m hm u hu => hfirst u hu m hm⟩
  rw [htarget]
  exact honce u hu

/-! ### Blocks that are not empty -/

/-- The blocks of the nodes that have statements behind those of their children. -/
def fullBlocks (s : Style α) (tree : Node α) : List (Block α) :=
  (tree.blocks s .input).filter fun b => !b.statements.isEmpty

lemma fullBlocks_sublist (s : Style α) (tree : Node α) :
    (tree.fullBlocks s).Sublist (tree.blocks s .input) :=
  List.filter_sublist

lemma flatMap_fullBlocks (s : Style α) (tree : Node α) :
    (tree.blocks s .input).flatMap Block.statements
      = (tree.fullBlocks s).flatMap Block.statements := by
  rw [List.flatMap, ← List.flatten_filter_not_isEmpty, List.filter_map]
  rfl

lemma map_node_fullBlocks (s : Style α) (tree : Node α) :
    ((tree.fullBlocks s).map Block.node).Sublist tree.postorder := by
  rw [← tree.map_node_blocks s .input]
  exact (tree.fullBlocks_sublist s).map _

lemma nodup_fullBlocks (s : Style α) {tree : Node α} (h : tree.sanitizedIds.Nodup) :
    ((tree.fullBlocks s).map fun b => sanitize b.node.id).Nodup := by
  have hperm := tree.postorder_perm_preorder.map fun n => sanitize n.id
  have hall : (tree.postorder.map fun n => sanitize n.id).Nodup := by
    refine hperm.nodup_iff.mpr ?_
    rwa [sanitizedIds, ids, List.map_map] at h
  have hsublist := (tree.map_node_fullBlocks s).map fun n => sanitize n.id
  rw [List.map_map] at hsublist
  exact hall.sublist hsublist

/-- No shape is without statements. -/
lemma filter_isPrimitive_fullBlocks (s : Style α) (tree : Node α) :
    ((tree.fullBlocks s).map Block.node).filter isPrimitive = Node.primitives (some tree) := by
  rw [primitives_some, ← filter_isPrimitive_postorder, ← tree.map_node_blocks s .input,
    List.filter_map, List.filter_map, fullBlocks, List.filter_filter]
  congr 1
  refine List.filter_congr fun b hb => ?_
  obtain ⟨outer, hb⟩ := exists_closing_of_mem_blocks hb
  cases hnode : b.node with
  | operation info op children => simp [hnode, isPrimitive]
  | primitive info body =>
    obtain ⟨place, turn, distance, hst⟩ :=
      Shader.statements_emitPrimitive s (sanitize info.id) outer body
    simp [hb, hnode, closing, hst]

end Node

/-! ### Programs in blocks -/

/-- A program is the given blocks, with the points of warps inserted. -/
structure Shader.Program.InBlocks (program : Shader.Program α) (tree : Node α)
    (blocks : List (Block α)) : Prop where
  /-- Without the points of warps, the blocks are left. -/
  filter_eq : program.statements.filter (!·.declaresWarp tree) = blocks.flatMap Block.statements
  ne_nil : ∀ b ∈ blocks, b.statements ≠ []
  mem_preorder : ∀ b ∈ blocks, b.node ∈ tree.preorder
  isOf : ∀ b ∈ blocks, ∀ st ∈ b.statements, st.IsOf b.node
  /-- No node has two blocks. -/
  nodup : (blocks.map fun b => sanitize b.node.id).Nodup
  sublist_order : (blocks.map fun b => b.node.id).Sublist (Flat.ofScene (some tree)).order
  /-- Every shape has a block. -/
  filter_isPrimitive :
    (blocks.map Block.node).filter Node.isPrimitive = Node.primitives (some tree)
  primitive_eq : ∀ b ∈ blocks, ∀ info body, b.node = .primitive info body →
    ∃ place turn distance, b.statements
      = .declare .vec2 (.point (sanitize info.id)) place
        :: (if Scalar.isZero body.rotation then []
          else [.assign (.point (sanitize info.id))
            (.call .rotate [.var (.point (sanitize info.id)), turn])])
        ++ [.declare .float (.distance (sanitize info.id)) distance]
  /-- A warp with children has its point declared, for all that is below it. -/
  exists_declare : ∀ n ∈ tree.preorder, n.isWarp = true → n.children ≠ [] →
    ∃ value, .declare .vec2 (.point (sanitize n.id)) value ∈ program.statements
  /-- The point of a warp is bound nowhere else, and in front of all that is below the warp. -/
  declare_first : ∀ before st after, program.statements = before ++ st :: after →
    st.declaresWarp tree = true →
    (∀ u ∈ before ++ after, u.target ≠ st.target) ∧
    ∃ n ∈ tree.preorder, n.isWarp = true ∧ st.target = .point (sanitize n.id) ∧
      ∀ m ∈ n.children.flatMap Node.preorder, ∀ u ∈ before, ¬ u.IsOf m

/-- The program of a tree is in blocks that follow the evaluation order. -/
theorem Shader.Program.exists_inBlocks (s : Style α) {tree : Node α}
    (hids : tree.sanitizedIds.Nodup)
    (harity : ∀ n ∈ tree.preorder, n.kind = .op .displace → n.children.length ≤ 2) :
    ∃ blocks, (ofScene s (some tree)).InBlocks tree blocks := by
  have htree : tree.Tidy := ⟨hids, harity⟩
  have hclosing : ∀ b ∈ tree.fullBlocks s, ∃ outer, b.statements = b.node.closing s outer :=
    fun b hb => Node.exists_closing_of_mem_blocks ((tree.fullBlocks_sublist s).subset hb)
  refine ⟨tree.fullBlocks s, ?_⟩
  constructor
  case filter_eq =>
    rw [← Node.flatMap_fullBlocks]
    refine Node.filter_statements htree ?_ ?_ .input
    · intro m hm outer st hst
      simp [Node.declaresWarp_of_mem_opening hm hst]
    · intro m hm outer st hst
      simp [Node.declaresWarp_of_mem_closing htree hm hst]
  case ne_nil =>
    intro b hb
    simpa using (List.mem_filter.mp hb).2
  case mem_preorder =>
    intro b hb
    have hmem := (tree.map_node_fullBlocks s).subset (List.mem_map_of_mem hb)
    exact tree.postorder_perm_preorder.subset hmem
  case isOf =>
    intro b hb st hst
    obtain ⟨outer, hb⟩ := hclosing b hb
    exact Node.isOf_of_mem_closing (hb ▸ hst)
  case nodup => exact Node.nodup_fullBlocks s hids
  case sublist_order =>
    have hsublist := (tree.map_node_fullBlocks s).map Node.id
    rwa [List.map_map, ← Flat.order_ofScene] at hsublist
  case filter_isPrimitive => exact tree.filter_isPrimitive_fullBlocks s
  case primitive_eq =>
    intro b hb info body hnode
    obtain ⟨outer, hb⟩ := hclosing b hb
    rw [hb, hnode]
    exact statements_emitPrimitive s (sanitize info.id) outer body
  case exists_declare =>
    intro n hn hwarp hchildren
    obtain ⟨before, value, after, hst, -, -⟩ :=
      Node.exists_append_warp s .input htree hn hwarp hchildren
    exact ⟨value, by simp [ofScene, hst]⟩
  case declare_first =>
    intro before st after hst hdeclares
    exact Node.point_bound_first_of_declaresWarp htree hst hdeclares

/-- Warps in one another, a displacement by a second shape, a turned shape and an operation without
children. -/
def Shader.Program.warpedScene : Node Float32 :=
  .combine "u" .union
    [.combine "m" .mirror
      [(Node.circle "a" .zero 1.0).withRotation 0.5, .combine "t 1" .twist [.circle "b" .zero 1.0]],
    .combine "w" .displace [.circle "c" .zero 1.0, .circle "d" .zero 2.0],
    .combine "e" .bend []]

theorem Shader.Program.exists_inBlocks_warpedScene :
    warpedScene.sanitizedIds.Nodup ∧
    (∀ n ∈ warpedScene.preorder, n.kind = .op .displace → n.children.length ≤ 2) ∧
    ∃ blocks, (ofScene .standard (some warpedScene)).InBlocks warpedScene blocks := by
  have hids : warpedScene.sanitizedIds.Nodup := by decide +kernel
  have harity : ∀ n ∈ warpedScene.preorder, n.kind = .op .displace → n.children.length ≤ 2 := by
    decide
  exact ⟨hids, harity, exists_inBlocks .standard hids harity⟩

end DistanceField
