import Mathlib
import DistanceField.Proofs.Shader.Reading
import DistanceField.Proofs.Shader.Run
import DistanceField.Proofs.Shader.Stages
import DistanceField.Shader.Source

/-!
# Shader code computes the field

A generated program and the field are two recursions over the same tree. Here they are tied
together: the draft of a node, run in an environment that holds the sample point, ends with the
distance of the node as the value of its result.

Numbers are any numbers, and no law of arithmetic is used but two, each at one place. A field takes
the nearest of several cutters starting from infinity, and a program starting from the first of
them. The wave of a displacement is multiplied together in the field before it is scaled, and in a
program after.
-/

namespace DistanceField

variable {α : Type} [Scalar α]

/-! ### The number laws -/

/-- The nearest of several cutters is not affected by starting from infinity. -/
def Fold.Lawful (ds : List α) : Fold α → Prop
  | .subtract | .smoothSubtract _ => ∀ d ∈ ds.head?, Scalar.min Scalar.infinity d = d
  | _ => True

/-- The number laws that an operation relies on at a point, given the distances of its children. -/
def Plan.Lawful (p : Vec2 α) : Plan α → List α → Prop
  | .displace strength, [_] =>
    strength * (Scalar.sin (p.x * waveFrequency) * Scalar.sin (p.y * waveFrequency)) =
      strength * Scalar.sin (p.x * waveFrequency) * Scalar.sin (p.y * waveFrequency)
  | .stages _ fold _, _ :: ds => fold.Lawful ds
  | _, _ => True

instance [DecidableEq α] (ds : List α) (fold : Fold α) : Decidable (fold.Lawful ds) :=
  match fold with
  | .subtract | .smoothSubtract _ =>
    inferInstanceAs (Decidable (∀ d ∈ ds.head?, Scalar.min Scalar.infinity d = d))
  | .union | .smoothUnion _ | .intersect | .smoothIntersect _ | .xor => .isTrue trivial

instance [DecidableEq α] (p : Vec2 α) (plan : Plan α) (ds : List α) :
    Decidable (plan.Lawful p ds) :=
  match plan, ds with
  | .displace _, [_] => inferInstanceAs (Decidable (_ = _))
  | .stages _ fold _, _ :: ds => inferInstanceAs (Decidable (fold.Lawful ds))
  | .displace _, [] | .displace _, _ :: _ :: _ | .stages _ _ _, [] => .isTrue trivial

namespace Node

/-- The number laws that a node relies on at a point. -/
def LawfulAt (p : Vec2 α) : Node α → Prop
  | .primitive _ _ => True
  | .operation _ op children => op.plan.Lawful p (children.map (eval (op.plan.point p)))

/-- The number laws that a tree relies on at a point. -/
def Lawful (n : Node α) (p : Vec2 α) : Prop := ∀ s ∈ n.samples p, s.1.LawfulAt s.2

instance [DecidableEq α] (p : Vec2 α) (n : Node α) : Decidable (n.LawfulAt p) :=
  match n with
  | .primitive _ _ => .isTrue trivial
  | .operation _ op children =>
    inferInstanceAs (Decidable (op.plan.Lawful p (children.map (eval (op.plan.point p)))))

instance [DecidableEq α] (n : Node α) (p : Vec2 α) : Decidable (n.Lawful p) :=
  inferInstanceAs (Decidable (∀ s ∈ n.samples p, s.1.LawfulAt s.2))

lemma Lawful.here {info : Info} {op : Operator α} {cs : List (Node α)} {p : Vec2 α}
    (h : (Node.operation info op cs).Lawful p) :
    op.plan.Lawful p (cs.map (eval (op.plan.point p))) :=
  h (.operation info op cs, p) List.mem_cons_self

lemma Lawful.child {info : Info} {op : Operator α} {cs : List (Node α)} {p : Vec2 α}
    (h : (Node.operation info op cs).Lawful p) {c : Node α} (hc : c ∈ cs) :
    c.Lawful (op.plan.point p) := by
  intro s hs
  exact h s (mem_samples_of_child hc hs)

end Node

namespace Shader

open Statement (runList?)

/-! ### Shapes -/

/-- The distance to a shape at a variable that holds the point in the shape's own coordinates. -/
lemma eval?_shapeDistance (s : Style α) {env : Env α} {v : Variable} {b : Primitive α}
    {p : Vec2 α} (hv : env v.name = some (.vec2 (b.localPoint p))) :
    (shapeDistance s v b.shape).eval? env = some (.float (b.eval p)) := by
  simp only [Primitive.eval]
  cases b.shape <;>
    simp [shapeDistance, Expr.eval?, Expr.evalList?, Style.number, Style.vector, Function.apply?,
      hv]

lemma eval?_moved (s : Style α) {env : Env α} {v : Variable} {p : Vec2 α}
    (hv : env v.name = some (.vec2 p)) (position : Vec2 α) :
    (Expr.sub (.var v) (s.vector position)).eval? env = some (.vec2 (p - position)) := by
  simp [Expr.eval?, Expr.evalList?, Style.number, Style.vector, Function.apply?, Value.sub?, hv]

lemma eval?_turned (s : Style α) {env : Env α} {v : Variable} {p : Vec2 α}
    (hv : env v.name = some (.vec2 p)) (angle : α) :
    (Expr.call .rotate [.var v, s.number angle]).eval? env = some (.vec2 (p.rotate angle)) := by
  simp [Expr.eval?, Expr.evalList?, Style.number, Function.apply?, hv]

/-- The statements in front of the distance bind the point in the shape's own coordinates. -/
lemma run_localPoint (s : Style α) (id : String) {outer : Variable} {env : Env α} {p : Vec2 α}
    (hp : env outer.name = some (.vec2 p)) (b : Primitive α) :
    let v := Variable.point id
    let move := Statement.declare .vec2 v (.sub (.var outer) (s.vector b.position))
    let turn := Statement.assign v (.call .rotate [.var v, s.number b.rotation])
    ∃ mid, runList? env (if Scalar.isZero b.rotation then [move] else [move, turn]) = some mid ∧
      Env.Frame [id] env mid ∧ mid v.name = some (.vec2 (b.localPoint p)) := by
  intro v move turn
  have hframe : ∀ (env : Env α) (value : Value α), Env.Frame [id] env (env.bind v.name value) :=
    Env.Frame.bind rfl List.mem_cons_self
  have hmove : move.run? env = some (env.bind v.name (.vec2 (p - b.position))) :=
    Statement.run?_declare v (eval?_moved s hp b.position) rfl
  by_cases hzero : Scalar.isZero b.rotation
  · refine ⟨_, ?_, hframe env (.vec2 (p - b.position)), ?_⟩
    · simp [hzero, runList?, hmove]
    · simp [Primitive.localPoint, hzero]
  · set mid := env.bind v.name (.vec2 (p - b.position))
    have hturn : turn.run? mid =
        some (mid.bind v.name (.vec2 ((p - b.position).rotate b.rotation))) :=
      Statement.run?_assign v (eval?_turned s (Env.bind_self env _ _) b.rotation)
        (Env.bind_self env _ _) rfl rfl
    refine ⟨mid.bind v.name (.vec2 ((p - b.position).rotate b.rotation)), ?_,
      (hframe env _).trans (hframe mid _), ?_⟩
    · simp [hzero, runList?, hmove, hturn]
    · simp [Primitive.localPoint, hzero]

lemma computes_emitPrimitive (s : Style α) (id : String) {outer : Variable} {env : Env α}
    {p : Vec2 α} (hp : env outer.name = some (.vec2 p)) (b : Primitive α) :
    ∃ env', (emitPrimitive s id outer b).Computes [id] env env' (b.eval p) := by
  obtain ⟨mid, hrun, hframe, hlocal⟩ := run_localPoint s id hp b
  exact ⟨_, Draft.computes_bind hrun hframe (eval?_shapeDistance s hlocal) rfl List.mem_cons_self⟩

/-! ### Folds and finishes -/

section

variable {s : Style α} {id : String} {ids : List String} {env : Env α}

/-- A subtraction takes the nearest of the cutters, starting from the first of them. -/
lemma cutter_cons {d : α} (hd : Scalar.min Scalar.infinity d = d) (ds : List α) :
    Fold.cutter (d :: ds) = ds.foldl Scalar.min d := by
  rw [Fold.cutter, List.foldl_cons, hd]

lemma denotes_min : Denotes (fun a b : Expr α => .call .min [a, b]) Scalar.min := by
  intro env a b x y ha hb
  simp [Expr.eval?, Expr.evalList?, Function.apply?, ha, hb]

lemma computes_emitCut {cut : Expr α → Expr α → Expr α} {g : α → α → α} (hcut : Denotes cut g)
    (hid : id ∉ ids) {base : Expr α} {x : α} (hbase : base.Settled ids)
    (hx : base.eval? env = some (.float x)) {es : List (Expr α)} {xs : List α}
    (hes : ∀ e ∈ es, e.Settled ids) (hxs : Results env es xs)
    (hlaw : ∀ d ∈ xs.head?, Scalar.min Scalar.infinity d = d) :
    ∃ env', (emitCut cut id base es).Computes (id :: ids) env env'
      (if xs.isEmpty then x else g x (Fold.cutter xs)) := by
  cases hxs with
  | nil => exact ⟨env, rfl, hx, .refl _ _, hbase.mono (List.subset_cons_self _ _)⟩
  | @cons e y es ys he hrest =>
    obtain ⟨mid, hcomp, hframe⟩ := computes_emitSteps denotes_min (.cutter id) (fun _ => rfl) hid
      (fun e he => hes e (List.mem_cons_of_mem _ he)) 2
      ((hes e List.mem_cons_self).mono (List.subset_cons_self _ _)) he hrest
    have hbase' : base.eval? mid = some (.float x) := by
      rw [hbase.eval?_eq hframe (by simpa using hid), hx]
    refine ⟨_, Draft.computes_bind hcomp.run hcomp.frame ?_ rfl List.mem_cons_self⟩
    rw [List.isEmpty_cons, cutter_cons (hlaw y rfl)]
    exact hcut mid base _ _ _ hbase' hcomp.value

lemma computes_emitFold (hid : id ∉ ids) {e : Expr α} {x : α} (hsettled : e.Settled ids)
    (hx : e.eval? env = some (.float x)) {es : List (Expr α)} {xs : List α}
    (hes : ∀ e ∈ es, e.Settled ids) (hxs : Results env es xs) {fold : Fold α}
    (hlaw : fold.Lawful xs) :
    ∃ env', (emitFold s id e es fold).Computes (id :: ids) env env' (fold.apply x xs) := by
  have hacc : e.Settled (id :: ids) := hsettled.mono (List.subset_cons_self _ _)
  have pairwise : ∀ {combine : Expr α → Expr α → Expr α} {f : α → α → α}, Denotes combine f →
      ∃ env', (emitSteps combine (.step id) 1 e es).Computes (id :: ids) env env'
        (xs.foldl f x) := by
    intro combine f h
    obtain ⟨env', hcomp, -⟩ := computes_emitSteps h (.step id) (fun _ => rfl) hid hes 1 hacc hx hxs
    exact ⟨env', hcomp⟩
  cases fold with
  | union => exact pairwise denotes_min
  | smoothUnion k =>
    apply pairwise
    intro env a b x y ha hb
    simp [Expr.eval?, Expr.evalList?, Function.apply?, Style.number, ha, hb]
  | intersect =>
    apply pairwise
    intro env a b x y ha hb
    simp [Expr.eval?, Expr.evalList?, Function.apply?, ha, hb]
  | smoothIntersect k =>
    apply pairwise
    intro env a b x y ha hb
    simp [Expr.eval?, Expr.evalList?, Function.apply?, Style.number, ha, hb]
  | xor =>
    apply pairwise
    intro env a b x y ha hb
    simp [Expr.eval?, Expr.evalList?, Function.apply?, ha, hb]
  | subtract =>
    have hcut : Denotes (fun base cutter : Expr α => .call .max [base, .neg cutter])
        (fun x y => Scalar.max x (-y)) := by
      intro env a b x y ha hb
      simp [Expr.eval?, Expr.evalList?, Function.apply?, Value.neg?, ha, hb]
    exact computes_emitCut hcut hid hsettled hx hes hxs hlaw
  | smoothSubtract k =>
    have hcut : Denotes (fun base cutter => .call .smoothSubtraction [cutter, base, s.number k])
        (fun x y => Blend.smoothSubtraction y x k) := by
      intro env a b x y ha hb
      simp [Expr.eval?, Expr.evalList?, Function.apply?, Style.number, ha, hb]
    exact computes_emitCut hcut hid hsettled hx hes hxs hlaw

lemma eval?_finished {e : Expr α} {x : α} (hx : e.eval? env = some (.float x))
    (finish : Finish α) : (finished s e finish).eval? env = some (.float (finish.apply x)) := by
  cases finish <;>
    simp [finished, Expr.eval?, Expr.evalList?, Function.apply?, Style.number, Value.sub?,
      Value.add?, Value.neg?, Finish.apply, hx]

/-! ### Operations -/

variable {outer : Variable} {p : Vec2 α}

lemma eval?_waveHeight (hp : env outer.name = some (.vec2 p)) (strength : α) :
    (waveHeight s outer strength).eval? env = some (.float
      (strength * Scalar.sin (p.x * waveFrequency) * Scalar.sin (p.y * waveFrequency))) := by
  simp [waveHeight, Expr.eval?, Expr.evalList?, Function.apply?, Style.number, Value.mul?,
    Value.coordinate?, Vec2.along, hp]

lemma eval?_warpedPoint (hp : env outer.name = some (.vec2 p)) (warp : Warp α) :
    (warpedPoint s outer warp).eval? env = some (.vec2 (warp.apply p)) := by
  have haxis : ∀ axis : Axis, axisOfFlag (decide (axis = .x)) = axis := by
    intro axis
    cases axis <;> rfl
  cases warp <;>
    simp [warpedPoint, Expr.eval?, Expr.evalList?, Function.apply?, Style.number, Style.vector,
      Warp.apply, haxis, hp]

/-- A warp binds the point that the children are sampled at. -/
lemma run_emitWarp (hp : env outer.name = some (.vec2 p)) (warp : Option (Warp α))
    (fold : Fold α) (finish : Option (Finish α)) :
    ∃ mid, runList? env (emitWarp s id outer warp) = some mid ∧ Env.Frame [id] env mid ∧
      mid (childPoint id outer (.stages warp fold finish)).name =
        some (.vec2 ((Plan.stages warp fold finish).point p)) := by
  cases warp with
  | none => exact ⟨env, rfl, .refl _ _, hp⟩
  | some warp =>
    refine ⟨env.bind (Variable.point id).name (.vec2 (warp.apply p)), ?_,
      .bind rfl List.mem_cons_self _ _, Env.bind_self _ _ _⟩
    have hrun := Statement.run?_declare (.point id) (eval?_warpedPoint (s := s) hp warp) rfl
    simp [emitWarp, runList?, hrun]

lemma computes_wave {base : Draft α} {env' : Env α} {x strength : α}
    (hbase : base.Computes ids env env' x) (hp : env' outer.name = some (.vec2 p))
    (hlaw : (Plan.displace strength).Lawful p [x]) :
    ∃ env'', (emitPlan s id outer (.displace strength) [base]).Computes (id :: ids) env env''
      ((Plan.displace strength).value p [x]) := by
  refine ⟨_, Draft.computes_bind hbase.run (hbase.frame.mono (List.subset_cons_self _ _)) ?_ rfl
    List.mem_cons_self⟩
  rw [Plan.value, Plan.wave, hlaw]
  simp [Expr.eval?, Value.add?, hbase.value, eval?_waveHeight hp]

lemma computes_source {base source : Draft α} {env' : Env α} {x y strength : α}
    (h : Draft.ComputeAll [base, source] ids env env' [x, y]) (rest : List (Draft α))
    (xs : List α) :
    ∃ env'', (emitPlan s id outer (.displace strength) (base :: source :: rest)).Computes
      (id :: ids) env env'' ((Plan.displace strength).value p (x :: y :: xs)) := by
  have hrun : runList? env (base.statements ++ source.statements) = some env' := by
    simpa using h.run
  obtain ⟨hx, hrest⟩ := List.forall₂_cons.mp h.values
  obtain ⟨hy, -⟩ := List.forall₂_cons.mp hrest
  refine ⟨_, Draft.computes_bind hrun (h.frame.mono (List.subset_cons_self _ _)) ?_ rfl
    List.mem_cons_self⟩
  simp [Plan.value, Expr.eval?, Value.add?, Value.mul?, Style.number, hx, hy]

lemma computes_stages {d : Draft α} {ds : List (Draft α)} {mid env' : Env α} {x : α}
    {xs : List α} {warp : Option (Warp α)} {fold : Fold α} (finish : Option (Finish α))
    (hwarp : runList? env (emitWarp s id outer warp) = some mid)
    (hframe : Env.Frame [id] env mid)
    (h : Draft.ComputeAll (d :: ds) ids mid env' (x :: xs)) (hid : id ∉ ids)
    (hlaw : fold.Lawful xs) :
    ∃ env'', (emitPlan s id outer (.stages warp fold finish) (d :: ds)).Computes (id :: ids)
      env env'' ((Plan.stages warp fold finish).value p (x :: xs)) := by
  obtain ⟨hx, hxs⟩ := List.forall₂_cons.mp h.values
  obtain ⟨env'', hfold⟩ := computes_emitFold (s := s) hid (h.settled _ List.mem_cons_self) hx
    (fun e he => h.settled e (List.mem_cons_of_mem _ he)) hxs hlaw
  have hbefore : runList? env (emitWarp s id outer warp ++ (d :: ds).flatMap Draft.statements) =
      some env' := by
    rw [Statement.runList?_append hwarp, h.run]
  have hrun : runList? env (emitWarp s id outer warp ++ (d :: ds).flatMap Draft.statements ++
      (emitFold s id d.result (ds.map Draft.result) fold).statements) = some env'' := by
    rw [Statement.runList?_append hbefore, hfold.run]
  have hframe'' : Env.Frame (id :: ids) env env'' :=
    ((hframe.mono (by simp)).trans (h.frame.mono (List.subset_cons_self _ _))).trans hfold.frame
  rw [emitPlan]
  cases finish with
  | none =>
    rw [Plan.value]
    exact ⟨env'', hrun, hfold.value, hframe'', hfold.settled⟩
  | some finish =>
    rw [Plan.value]
    exact ⟨_, Draft.computes_bind hrun hframe'' (eval?_finished hfold.value finish) rfl
      List.mem_cons_self⟩

end

/-! ### Trees -/

/-- The children of a node, each of which computes its distance, compute theirs together. -/
lemma computeAll_children {s : Style α} {outer : Variable} {p : Vec2 α} {cs : List (Node α)}
    (ih : ∀ c ∈ cs, ∀ env : Env α, c.sanitizedIds.Nodup → env outer.name = some (.vec2 p) →
      (∀ id ∈ outer.owner?, id ∉ c.sanitizedIds) →
      ∃ env', (emitNode s outer c).Computes c.sanitizedIds env env' (c.eval p))
    (hnodup : (cs.flatMap Node.sanitizedIds).Nodup) (env : Env α)
    (hp : env outer.name = some (.vec2 p))
    (houter : ∀ id ∈ outer.owner?, id ∉ cs.flatMap Node.sanitizedIds) :
    ∃ env', Draft.ComputeAll (cs.map (emitNode s outer)) (cs.flatMap Node.sanitizedIds) env env'
      (cs.map (Node.eval p)) := by
  induction cs generalizing env with
  | nil => exact ⟨env, rfl, .nil, .refl _ _, by simp⟩
  | cons c rest ihrest =>
    rw [List.flatMap_cons] at hnodup houter ⊢
    obtain ⟨hc, hrest, hdisj⟩ := List.nodup_append'.mp hnodup
    have houter_c : ∀ id ∈ outer.owner?, id ∉ c.sanitizedIds := fun id hid hmem =>
      houter id hid (List.mem_append_left _ hmem)
    have houter_rest : ∀ id ∈ outer.owner?, id ∉ rest.flatMap Node.sanitizedIds :=
      fun id hid hmem => houter id hid (List.mem_append_right _ hmem)
    obtain ⟨mid, hcomp⟩ := ih c List.mem_cons_self env hc hp houter_c
    obtain ⟨env', hall⟩ := ihrest (fun c hc => ih c (List.mem_cons_of_mem _ hc)) hrest mid
      (hcomp.frame.keeps houter_c hp) houter_rest
    exact ⟨env', Draft.ComputeAll.cons hcomp hall hdisj⟩

/-- Run where the sample point is bound, the draft of a tree computes the distance of the tree. -/
lemma computes_emitNode {s : Style α} (hs : s.sentinel = sentinel) (n : Node α)
    {outer : Variable} {p : Vec2 α} (env : Env α) (hnodup : n.sanitizedIds.Nodup)
    (hp : env outer.name = some (.vec2 p)) (houter : ∀ id ∈ outer.owner?, id ∉ n.sanitizedIds)
    (hlaw : n.Lawful p) :
    ∃ env', (emitNode s outer n).Computes n.sanitizedIds env env' (n.eval p) := by
  induction n generalizing outer p env with
  | primitive info body => exact computes_emitPrimitive s (sanitize info.id) hp body
  | operation info op cs ih =>
    rw [Node.sanitizedIds_eq, Node.children_operation] at hnodup houter ⊢
    obtain ⟨hid, hnodup⟩ := List.nodup_cons.mp hnodup
    have houter' : ∀ id ∈ outer.owner?, id ∉ cs.flatMap Node.sanitizedIds := fun id hid hmem =>
      houter id hid (List.mem_cons_of_mem _ hmem)
    have hlaw' := hlaw.here
    have ih : ∀ c ∈ cs, ∀ (outer : Variable) (env : Env α), c.sanitizedIds.Nodup →
        env outer.name = some (.vec2 (op.plan.point p)) →
        (∀ id ∈ outer.owner?, id ∉ c.sanitizedIds) →
        ∃ env', (emitNode s outer c).Computes c.sanitizedIds env env'
          (c.eval (op.plan.point p)) := by
      intro c hc outer env hnodup hp houter
      exact ih c hc env hnodup hp houter (hlaw.child hc)
    rw [emitNode_operation, Node.eval, Node.evalList_eq]
    generalize op.plan = plan at hlaw' ih ⊢
    match plan, cs with
    | plan, [] =>
      refine ⟨env, ?_⟩
      simp only [List.map_nil, emitPlan, Plan.value]
      exact ⟨rfl, by simp [Style.absent, Expr.eval?, hs], .refl _ _, .number _ _⟩
    | .displace strength, [c] =>
      rw [List.flatMap_singleton] at hnodup houter' ⊢
      obtain ⟨env', hc⟩ := ih c List.mem_cons_self outer env hnodup hp houter'
      exact computes_wave hc (hc.frame.keeps houter' hp) hlaw'
    | .displace strength, c :: c' :: rest =>
      -- Children after the second have no statements.
      have hsplit : (c :: c' :: rest).flatMap Node.sanitizedIds =
          [c, c'].flatMap Node.sanitizedIds ++ rest.flatMap Node.sanitizedIds := by
        simp only [List.flatMap_cons, List.flatMap_nil, List.append_nil, List.append_assoc]
      rw [hsplit] at hnodup houter' ⊢
      have hall : ∃ mid, Draft.ComputeAll ([c, c'].map (emitNode s outer))
          ([c, c'].flatMap Node.sanitizedIds) env mid ([c, c'].map (Node.eval p)) := by
        refine computeAll_children (fun d hd env => ih d ?_ outer env)
          (List.nodup_append'.mp hnodup).1 env hp
          (fun id hid hmem => houter' id hid (List.mem_append_left _ hmem))
        exact List.mem_of_mem_take (i := 2) hd
      obtain ⟨mid, hall⟩ := hall
      obtain ⟨env', h⟩ :=
        computes_source hall (rest.map (emitNode s outer)) (rest.map (Node.eval p))
      exact ⟨env', h.mono (List.cons_subset_cons _ (List.subset_append_left _ _))⟩
    | .stages warp fold finish, c :: rest =>
      obtain ⟨mid, hwarp, hframe, hpoint⟩ := run_emitWarp hp warp fold finish
      have hchild : ∀ id ∈ (childPoint (sanitize info.id) outer (.stages warp fold finish)).owner?,
          id ∉ (c :: rest).flatMap Node.sanitizedIds := by
        cases warp with
        | none => exact houter'
        | some warp =>
          rintro id ⟨⟩
          exact hid
      obtain ⟨env', hall⟩ := computeAll_children (fun c hc env => ih c hc _ env) hnodup mid hpoint
        hchild
      exact computes_stages finish hwarp hframe hall hid hlaw'

/-! ### Programs -/

omit [Scalar α] in
/-- The expressions of a program, in the order of its statements, and its result. -/
def Program.expressions (program : Program α) : List (Expr α) :=
  program.statements.map Statement.value ++ [program.result]

/-- Where identifiers stay apart in the names of variables, a generated program runs to its end at
every point, and what it gives there is the field of the scene. Every expression it runs is the one
that its text reads as. -/
theorem run?_ofScene [FixedText α] (scene : Option (Node α)) (places : Nat) (p : Vec2 α)
    (hids : ∀ tree ∈ scene, tree.sanitizedIds.Nodup) (hlaws : ∀ tree ∈ scene, tree.Lawful p) :
    let program := Program.ofScene ⟨places, sentinel⟩ scene
    program.run? p = some (Field.eval scene p) ∧
      ∀ e ∈ program.expressions,
        Token.texts (e.tokens 0) = e.text ∧ Expr.read? (e.tokens 0) = some e := by
  intro program
  refine ⟨?_, fun e _ => ⟨texts_tokens 0 e, read?_tokens e⟩⟩
  cases scene with
  | none => rfl
  | some tree =>
    have hinput : Env.start p Variable.input.name = some (.vec2 p) := by simp [Env.start]
    obtain ⟨env, h⟩ := computes_emitNode (s := ⟨places, sentinel⟩) rfl tree (.start p)
      (hids tree rfl) hinput (by simp [Variable.owner?]) (hlaws tree rfl)
    simp [program, Program.run?, Program.ofScene, h.run, h.value, Field.eval]

/-- A turned disc with a wave on it, cut by a box. -/
def carvedDisc : Node Float32 :=
  .operation { id := "carved" } { kind := .subtract, blend := 0.0, params := {} }
    [.operation { id := "wave" } { kind := .displace, blend := 0.0, params := {} }
      [.primitive { id := "disc" }
        { position := ⟨0.5, 0.0⟩, rotation := 0.25, scale := .one, shape := .circle none }],
    .primitive { id := "hole" }
      { position := .zero, rotation := 0.0, scale := .one, shape := .box none }]

theorem run?_carvedDisc :
    let p : Vec2 Float32 := ⟨0.0000152587890625, 0.000030517578125⟩
    carvedDisc.sanitizedIds.Nodup ∧ carvedDisc.Lawful p ∧
      (Program.ofScene ⟨4, sentinel⟩ (some carvedDisc)).run? p =
        some (Field.eval (some carvedDisc) p) := by
  intro p
  have hids : carvedDisc.sanitizedIds.Nodup := by decide +kernel
  have hlaws : carvedDisc.Lawful p := by decide +kernel
  refine ⟨hids, hlaws, (run?_ofScene (some carvedDisc) 4 p ?_ ?_).1⟩
  · rintro tree ⟨⟩
    exact hids
  · rintro tree ⟨⟩
    exact hlaws

end Shader

end DistanceField
