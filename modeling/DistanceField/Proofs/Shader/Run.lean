import Mathlib
import DistanceField.Proofs.Shader.Names
import DistanceField.Shader.Emit
import DistanceField.Shader.Semantics

/-!
# What drafts do to an environment

A draft binds variables of a few nodes and leaves every other variable alone; its result is a
literal or one of the variables it bound. So statements of other nodes cannot disturb a result that
is still to be read. `Draft.Computes` packs this with the value of the result, and the lemmas below
build it up along the parts that drafts are made of.
-/

namespace DistanceField.Shader

variable {α : Type}

/-! ### Frames -/

/-- Only variables of the given nodes differ between two environments. -/
def Env.Frame (ids : List String) (env env' : Env α) : Prop :=
  ∀ v : Variable, (∀ id ∈ v.owner?, id ∉ ids) → env' v.name = env v.name

namespace Env.Frame

variable {ids ids' : List String} {env env' env'' : Env α}

lemma refl (ids : List String) (env : Env α) : Frame ids env env := fun _ _ => rfl

lemma trans (h : Frame ids env env') (h' : Frame ids env' env'') : Frame ids env env'' :=
  fun v hv => (h' v hv).trans (h v hv)

lemma mono (h : Frame ids env env') (hsub : ids ⊆ ids') : Frame ids' env env' :=
  fun v hv => h v fun id hid hmem => hv id hid (hsub hmem)

/-- Binding a variable of a node disturbs no variable of another one. -/
lemma bind {v : Variable} {id : String} (hv : v.owner? = some id) (hid : id ∈ ids)
    (env : Env α) (value : Value α) : Frame ids env (env.bind v.name value) := by
  intro w hw
  apply Env.bind_of_ne
  intro hname
  rw [Variable.name_injective hname] at hw
  exact hw id hv hid

/-- A variable of another node keeps its value. -/
lemma keeps {v : Variable} {value : Value α} (h : Frame ids env env')
    (hv : ∀ id ∈ v.owner?, id ∉ ids) (hvalue : env v.name = some value) :
    env' v.name = some value := by
  rw [h v hv, hvalue]

end Env.Frame

/-- A result that only statements of the given nodes can change: a literal, or a variable of one of
these nodes. -/
inductive Expr.Settled (ids : List String) : Expr α → Prop
  | number (places : Nat) (value : α) : Settled ids (.number places value)
  | var (v : Variable) (id : String) (hv : v.owner? = some id) (hid : id ∈ ids) :
    Settled ids (.var v)

lemma Expr.Settled.mono {ids ids' : List String} {e : Expr α} (h : e.Settled ids)
    (hsub : ids ⊆ ids') : e.Settled ids' := by
  cases h with
  | number places value => exact .number places value
  | var v id hv hid => exact .var v id hv (hsub hid)

variable [Scalar α]

/-- A settled result keeps its value while other nodes are worked on. -/
lemma Expr.Settled.eval?_eq {ids ids' : List String} {env env' : Env α} {e : Expr α}
    (h : e.Settled ids) (hframe : Env.Frame ids' env env') (hdisj : ids.Disjoint ids') :
    e.eval? env' = e.eval? env := by
  cases h with
  | number places value => simp [eval?]
  | var v id hv hid =>
    simp only [eval?]
    apply hframe
    intro id' hid'
    obtain rfl : id = id' := Option.some_inj.mp (hv.symm.trans hid')
    exact hdisj hid

/-! ### Running statements -/

namespace Statement

lemma runList?_append {env env' : Env α} {before : List (Statement α)}
    (h : runList? env before = some env') (after : List (Statement α)) :
    runList? env (before ++ after) = runList? env' after := by
  induction before generalizing env with
  | nil =>
    obtain rfl : env = env' := by simpa [runList?] using h
    rfl
  | cons s rest ih =>
    simp only [runList?, Option.bind_eq_bind, Option.bind_eq_some_iff] at h
    obtain ⟨mid, hs, hrest⟩ := h
    simp only [List.cons_append, runList?, hs, Option.bind_eq_bind, Option.bind_some]
    exact ih hrest

lemma run?_declare {env : Env α} {e : Expr α} {value : Value α} {type : ValueType} (v : Variable)
    (he : e.eval? env = some value) (ht : value.type? = some type) :
    run? env (.declare type v e) = some (env.bind v.name value) := by
  simp [run?, he, ht, guard]

lemma run?_assign {env : Env α} {e : Expr α} {old new : Value α} {type : ValueType} (v : Variable)
    (he : e.eval? env = some new) (hold : env v.name = some old) (ht : new.type? = some type)
    (ht' : old.type? = some type) : run? env (.assign v e) = some (env.bind v.name new) := by
  simp [run?, he, hold, ht, ht', guard]

end Statement

/-! ### Drafts -/

/-- Running a draft from one environment leads to another, in which its result has a value. Only
variables of the given nodes are bound on the way, and the result depends on nothing else. -/
structure Draft.Computes (d : Draft α) (ids : List String) (env env' : Env α) (x : α) : Prop where
  run : Statement.runList? env d.statements = some env'
  value : d.result.eval? env' = some (.float x)
  frame : Env.Frame ids env env'
  settled : d.result.Settled ids

namespace Draft

variable {ids ids' : List String} {env mid env' : Env α} {x : α}

lemma Computes.mono {d : Draft α} (h : d.Computes ids env env' x) (hsub : ids ⊆ ids') :
    d.Computes ids' env env' x :=
  ⟨h.run, h.value, h.frame.mono hsub, h.settled.mono hsub⟩

/-- Binding one more variable of a node that is worked on. -/
lemma computes_bind {before : List (Statement α)} {v : Variable} {id : String} {e : Expr α}
    (hrun : Statement.runList? env before = some mid) (hframe : Env.Frame ids env mid)
    (he : e.eval? mid = some (.float x)) (hv : v.owner? = some id) (hid : id ∈ ids) :
    (Draft.bind before v e).Computes ids env (mid.bind v.name (.float x)) x where
  run := by
    simp only [Draft.bind]
    rw [Statement.runList?_append hrun]
    simp [Statement.runList?, Statement.run?_declare v he rfl]
  value := by simp [Draft.bind, Expr.eval?]
  frame := hframe.trans (.bind hv hid mid _)
  settled := .var v id hv hid

end Draft

/-- The values of a list of results. -/
def Results (env : Env α) (es : List (Expr α)) (xs : List α) : Prop :=
  List.Forall₂ (fun e x => e.eval? env = some (.float x)) es xs

/-- Settled results keep their values while other nodes are worked on. -/
lemma Results.frame {ids ids' : List String} {env env' : Env α} {es : List (Expr α)} {xs : List α}
    (h : Results env es xs) (hes : ∀ e ∈ es, e.Settled ids) (hframe : Env.Frame ids' env env')
    (hdisj : ids.Disjoint ids') : Results env' es xs := by
  induction h with
  | nil => exact .nil
  | cons he _ ih =>
    refine .cons ?_ (ih fun e he => hes e (List.mem_cons_of_mem _ he))
    rw [(hes _ List.mem_cons_self).eval?_eq hframe hdisj, he]

/-- Drafts that are run one after the other, with the values of their results at the end. -/
structure Draft.ComputeAll (ds : List (Draft α)) (ids : List String) (env env' : Env α)
    (xs : List α) : Prop where
  run : Statement.runList? env (ds.flatMap Draft.statements) = some env'
  values : Results env' (ds.map Draft.result) xs
  frame : Env.Frame ids env env'
  settled : ∀ e ∈ ds.map Draft.result, e.Settled ids

/-- The result of a draft outlives the drafts of other nodes. -/
lemma Draft.ComputeAll.cons {d : Draft α} {ds : List (Draft α)} {ids ids' : List String}
    {env mid env' : Env α} {x : α} {xs : List α} (hd : d.Computes ids env mid x)
    (hds : ComputeAll ds ids' mid env' xs) (hdisj : ids.Disjoint ids') :
    ComputeAll (d :: ds) (ids ++ ids') env env' (x :: xs) where
  run := by
    rw [List.flatMap_cons, Statement.runList?_append hd.run, hds.run]
  values := by
    refine .cons ?_ hds.values
    rw [hd.settled.eval?_eq hds.frame hdisj, hd.value]
  frame := (hd.frame.mono (List.subset_append_left _ _)).trans
    (hds.frame.mono (List.subset_append_right _ _))
  settled := by
    intro e he
    rcases List.mem_cons.mp he with rfl | he
    · exact hd.settled.mono (List.subset_append_left _ _)
    · exact (hds.settled e he).mono (List.subset_append_right _ _)

/-- An expression builder that stands for a binary function. -/
def Denotes (combine : Expr α → Expr α → Expr α) (f : α → α → α) : Prop :=
  ∀ (env : Env α) (a b : Expr α) (x y : α), a.eval? env = some (.float x) →
    b.eval? env = some (.float y) → (combine a b).eval? env = some (.float (f x y))

/-- Folding from the left: each step binds the value of the fold so far. -/
lemma computes_emitSteps {combine : Expr α → Expr α → Expr α} {f : α → α → α}
    (hcombine : Denotes combine f) (target : Nat → Variable) {id : String}
    (htarget : ∀ i, (target i).owner? = some id) {ids : List String} (hid : id ∉ ids)
    {es : List (Expr α)} (hes : ∀ e ∈ es, e.Settled ids) {xs : List α} (i : Nat) {acc : Expr α}
    {x : α} (hacc : acc.Settled (id :: ids)) {env : Env α}
    (hx : acc.eval? env = some (.float x)) (hxs : Results env es xs) :
    ∃ env', (emitSteps combine target i acc es).Computes (id :: ids) env env' (xs.foldl f x) ∧
      Env.Frame [id] env env' := by
  induction es generalizing xs i acc x env with
  | nil =>
    cases hxs
    exact ⟨env, ⟨rfl, hx, .refl _ _, hacc⟩, .refl _ _⟩
  | cons e rest ih =>
    cases hxs with
    | @cons _ y _ ys he hrest =>
    have hstep := hcombine env acc e x y hx he
    have hframe : Env.Frame [id] env (env.bind (target i).name (.float (f x y))) :=
      .bind (htarget i) List.mem_cons_self env _
    have hdisj : ids.Disjoint [id] := by simpa using hid
    have hrest' := Results.frame hrest (fun e he => hes e (List.mem_cons_of_mem _ he)) hframe hdisj
    have hvar : (Expr.var (target i)).eval? (env.bind (target i).name (.float (f x y))) =
        some (.float (f x y)) := by simp [Expr.eval?]
    obtain ⟨env', hcomp, hframe'⟩ := ih (fun e he => hes e (List.mem_cons_of_mem _ he)) (i + 1)
      (.var _ id (htarget i) List.mem_cons_self) hvar hrest'
    refine ⟨env', ⟨?_, hcomp.value, ?_, hcomp.settled⟩, hframe.trans hframe'⟩
    · simp only [emitSteps, Statement.runList?, Statement.run?_declare (target i) hstep rfl]
      exact hcomp.run
    · exact (hframe.mono (by simp)).trans hcomp.frame

end DistanceField.Shader
