import Mathlib
import DistanceField.Proofs.Shader.Declared

/-!
# Single assignment

A program declares every variable once. Names are made from sanitized identifiers without any
escape, so where these are distinct it has to be seen from the names alone: `a_1` may be the
identifier of one node, and the end of the name of a step in the fold of another one.

There is one second binding: the point of a shape that is turned. It stands right behind the
declaration, so that a name still leads to its declaration.

A displacement declares nothing for children beyond the second, and trees with such children are
allowed here.
-/

namespace DistanceField

variable {α : Type}

namespace Shader

/-! ### Names -/

lemma Variable.underscore_mem_name {v : Variable} {id : String} (h : v.owner? = some id) :
    '_' ∈ v.name.toList := by
  cases v with
  | input => cases h
  | _ => simp [name]

lemma Function.underscore_notMem_name {f : Function} (h : f ∈ helpers) :
    '_' ∉ f.name.toList := by
  revert f
  decide

/-- The variable of a node is not called like the sample point or a helper function. -/
lemma Variable.name_ne_of_owner? {v : Variable} {id : String} (h : v.owner? = some id) :
    v.name ≠ "p" ∧ ∀ f ∈ Function.helpers, v.name ≠ f.name := by
  have hmem := underscore_mem_name h
  constructor
  · intro heq
    rw [heq] at hmem
    exact absurd hmem (by decide)
  · intro f hf heq
    rw [heq] at hmem
    exact Function.underscore_notMem_name hf hmem

/-! ### Assignments -/

/-- Every assignment stands right behind the declaration of its variable as a point. -/
def AssignsDeclared (ss : List (Statement α)) : Prop :=
  ∀ before target value after, ss = before ++ .assign target value :: after →
    ∃ front first, before = front ++ [.declare .vec2 target first]

lemma assignsDeclared_nil : AssignsDeclared ([] : List (Statement α)) := by
  intro before target value after h
  simp at h

lemma assignsDeclared_singleton (type : ValueType) (target : Variable) (value : Expr α) :
    AssignsDeclared [.declare type target value] := by
  intro before target' value' after h
  cases before <;> simp at h

lemma AssignsDeclared.append {ss ts : List (Statement α)} (hs : AssignsDeclared ss)
    (ht : AssignsDeclared ts) : AssignsDeclared (ss ++ ts) := by
  intro before target value after h
  rcases List.append_eq_append_iff.mp h with ⟨between, rfl, hts⟩ | ⟨rest, rfl, hrest⟩
  · obtain ⟨front, first, rfl⟩ := ht between target value after hts
    exact ⟨ss ++ front, first, by simp⟩
  · cases rest with
    | nil =>
      -- what follows starts with an assignment, which has nothing in front of it there
      obtain ⟨front, first, heq⟩ := ht [] target value after hrest.symm
      simp at heq
    | cons st rest =>
      obtain ⟨rfl, rfl⟩ := List.cons.inj hrest
      exact hs before target value rest rfl

lemma assignsDeclared_flatMap {ds : List (Draft α)} (h : ∀ d ∈ ds, AssignsDeclared d.statements) :
    AssignsDeclared (ds.flatMap Draft.statements) := by
  induction ds with
  | nil => exact assignsDeclared_nil
  | cons d ds ih =>
    rw [List.forall_mem_cons] at h
    exact h.1.append (ih h.2)

lemma AssignsDeclared.bind {before : List (Statement α)} (h : AssignsDeclared before)
    (target : Variable) (value : Expr α) :
    AssignsDeclared (Draft.bind before target value).statements :=
  h.append (assignsDeclared_singleton _ _ _)

lemma assignsDeclared_emitSteps (combine : Expr α → Expr α → Expr α) (target : Nat → Variable)
    (i : Nat) (acc : Expr α) (es : List (Expr α)) :
    AssignsDeclared (emitSteps combine target i acc es).statements := by
  induction es generalizing i acc with
  | nil => exact assignsDeclared_nil
  | cons e rest ih => exact (assignsDeclared_singleton _ _ _).append (ih _ _)

lemma assignsDeclared_emitFold (s : Style α) (id : String) (d : Expr α) (ds : List (Expr α))
    (fold : Fold α) : AssignsDeclared (emitFold s id d ds fold).statements := by
  have hcut : ∀ cut, AssignsDeclared (emitCut cut id d ds).statements := by
    intro cut
    cases ds with
    | nil => exact assignsDeclared_nil
    | cons first rest => exact (assignsDeclared_emitSteps _ _ _ _ _).bind _ _
  cases fold with
  | subtract => exact hcut _
  | smoothSubtract blend => exact hcut _
  | _ => exact assignsDeclared_emitSteps _ _ _ _ _

lemma assignsDeclared_emitWarp (s : Style α) (id : String) (outer : Variable)
    (warp : Option (Warp α)) : AssignsDeclared (emitWarp s id outer warp) := by
  cases warp with
  | none => exact assignsDeclared_nil
  | some warp => exact assignsDeclared_singleton _ _ _

lemma AssignsDeclared.emitFinish {before : List (Statement α)} (h : AssignsDeclared before)
    (s : Style α) (id : String) (d : Expr α) (finish : Option (Finish α)) :
    AssignsDeclared (emitFinish s id before d finish).statements := by
  cases finish with
  | none => exact h
  | some finish => exact h.bind _ _

variable [Scalar α]

lemma assignsDeclared_emitPrimitive (s : Style α) (id : String) (outer : Variable)
    (b : Primitive α) : AssignsDeclared (emitPrimitive s id outer b).statements := by
  rw [emitPrimitive]
  apply AssignsDeclared.bind
  split_ifs
  · exact assignsDeclared_singleton _ _ _
  · -- the point is declared and then turned
    intro before target value after h
    rcases before with _ | ⟨st, _ | ⟨st', rest⟩⟩
    · simp at h
    · simp only [List.cons_append, List.nil_append, List.cons.injEq, Statement.assign.injEq] at h
      obtain ⟨rfl, ⟨rfl, -⟩, -⟩ := h
      exact ⟨[], _, rfl⟩
    · simp at h

lemma assignsDeclared_emitPlan (s : Style α) (id : String) (outer : Variable) (plan : Plan α)
    {ds : List (Draft α)} (h : ∀ d ∈ ds, AssignsDeclared d.statements) :
    AssignsDeclared (emitPlan s id outer plan ds).statements := by
  match plan, ds with
  | .displace strength, [] | .stages warp fold finish, [] => exact assignsDeclared_nil
  | .displace strength, [base] => exact (h base (by simp)).bind _ _
  | .displace strength, base :: source :: _ =>
    exact ((h base (by simp)).append (h source (by simp))).bind _ _
  | .stages warp fold finish, d :: ds =>
    rw [emitPlan]
    apply AssignsDeclared.emitFinish
    apply AssignsDeclared.append
    · exact (assignsDeclared_emitWarp _ _ _ _).append (assignsDeclared_flatMap h)
    · exact assignsDeclared_emitFold _ _ _ _ _

lemma assignsDeclared_emitNode (s : Style α) (outer : Variable) (n : Node α) :
    AssignsDeclared (emitNode s outer n).statements := by
  induction n generalizing outer with
  | primitive info body => exact assignsDeclared_emitPrimitive _ _ _ _
  | operation info op children ih =>
    rw [emitNode_operation]
    apply assignsDeclared_emitPlan
    intro d hd
    obtain ⟨c, hc, rfl⟩ := List.mem_map.mp hd
    exact ih c hc _

/-! ### Declarations -/

lemma flatMap_subperm_flatMap {β γ : Type} {xs : List β} {f g : β → List γ}
    (h : ∀ x ∈ xs, (f x).Subperm (g x)) : (xs.flatMap f).Subperm (xs.flatMap g) := by
  induction xs with
  | nil => exact List.Subperm.refl _
  | cons x xs ih =>
    rw [List.forall_mem_cons] at h
    exact h.1.append (ih h.2)

/-- An operation declares no other variables than its own and those of its children. -/
lemma declared_emitPlan_subperm (s : Style α) (id : String) (outer : Variable) (plan : Plan α)
    (d : Draft α) (ds : List (Draft α)) :
    (declared (emitPlan s id outer plan (d :: ds)).statements).Subperm
      (plan.locals id ds.length ++ (d :: ds).flatMap fun d => declared d.statements) := by
  match plan, ds with
  | .displace strength, source :: extra :: rest =>
    -- the children beyond the second are passed over
    have hperm := @declared_emitPlan_perm _ _ s id outer (.displace strength) d [source] (by simp)
    have hread : [d, source].Sublist (d :: source :: extra :: rest) := by simp
    exact hperm.subperm.trans
      ((List.subperm_append_left _).mpr (hread.flatMap _).subperm)
  | .displace strength, [] | .displace strength, [_] =>
    exact (declared_emitPlan_perm s id outer (by simp)).subperm
  | .stages warp fold finish, ds =>
    refine (declared_emitPlan_perm s id outer ?_).subperm
    intro strength h
    cases h

/-- The program of a tree declares no other variables than those of its nodes. -/
lemma declared_emitNode_subperm (s : Style α) (outer : Variable) (n : Node α) :
    (declared (emitNode s outer n).statements).Subperm (n.preorder.flatMap Node.locals) := by
  induction n generalizing outer with
  | primitive info body =>
    rw [emitNode, declared_emitPrimitive]
    exact List.Subperm.refl _
  | operation info op children ih =>
    cases children with
    | nil => exact List.Subperm.refl _
    | cons c cs =>
      rw [emitNode_operation, List.map_cons, Node.preorder_eq, List.flatMap_cons,
        List.flatMap_assoc]
      refine (declared_emitPlan_subperm s _ outer _ _ _).trans ?_
      rw [← List.map_cons, List.flatMap_map, List.length_map]
      apply (List.subperm_append_left _).mpr
      apply flatMap_subperm_flatMap
      intro m hm
      exact ih m hm _

lemma nodup_declaredNames (s : Style α) {tree : Node α} (h : tree.sanitizedIds.Nodup) :
    (Program.ofScene s (some tree)).declaredNames.Nodup := by
  apply List.Nodup.map Variable.name_injective
  apply Node.nodup_of_subperm (declared_emitNode_subperm s .input tree)
  rw [List.nodup_flatMap]
  exact ⟨fun n _ => n.nodup_locals, Node.pairwise_apart h⟩

/-! ### Programs in single assignment form -/

omit [Scalar α] in
lemma Program.declaredNames_eq (p : Program α) :
    p.declaredNames = (p.statements.filter (·.declares?.isSome)).map Statement.name := by
  rw [declaredNames, declared]
  induction p.statements with
  | nil => rfl
  | cons st rest ih =>
    cases st with
    | declare type target value => exact congrArg (target.name :: ·) ih
    | assign target value => exact ih

omit [Scalar α] in
/-- A name leads to its one declaration: an assignment has the declaration in front of it. -/
lemma Program.statement?_of_declare {p : Program α} (hnodup : p.declaredNames.Nodup)
    (hassign : AssignsDeclared p.statements) {type : ValueType} {target : Variable}
    {value : Expr α} (h : .declare type target value ∈ p.statements) :
    p.statement? target.name = some (.declare type target value) := by
  cases hfind : p.statement? target.name with
  | none =>
    have hnone := List.find?_eq_none.mp hfind _ h
    simp [Statement.name, Statement.target] at hnone
  | some st =>
    obtain ⟨hname, before, after, hsplit, hbefore⟩ := List.find?_eq_some_iff_append.mp hfind
    rw [beq_iff_eq] at hname
    cases st with
    | declare type' target' value' =>
      have hmem : .declare type' target' value' ∈ p.statements := by simp [hsplit]
      rw [declaredNames_eq] at hnodup
      rw [List.inj_on_of_nodup_map hnodup (List.mem_filter.mpr ⟨hmem, rfl⟩)
        (List.mem_filter.mpr ⟨h, rfl⟩) hname]
    | assign target' value' =>
      obtain ⟨front, first, rfl⟩ := hassign before target' value' after hsplit
      have hfirst := hbefore (.declare .vec2 target' first) (by simp)
      simp only [Bool.not_eq_true', beq_eq_false_iff_ne] at hfirst
      exact absurd hname hfirst

/-- A program that declares every name once: no name stands for something else as well, a second
binding comes right behind the first, and a search for a name ends at its declaration. -/
structure Program.SingleAssignment (p : Program α) : Prop where
  nodup : p.declaredNames.Nodup
  ne_input : "p" ∉ p.declaredNames
  ne_helper : ∀ f ∈ Function.helpers, f.name ∉ p.declaredNames
  assigns : AssignsDeclared p.statements
  statement?_eq : ∀ type target value, .declare type target value ∈ p.statements →
    p.statement? target.name = some (.declare type target value)

/-- The program of a tree is in single assignment form if sanitized identifiers occur once. -/
theorem singleAssignment_ofScene (s : Style α) {tree : Node α} (h : tree.sanitizedIds.Nodup) :
    (Program.ofScene s (some tree)).SingleAssignment := by
  have hnodup := nodup_declaredNames s h
  have hassign : AssignsDeclared (Program.ofScene s (some tree)).statements :=
    assignsDeclared_emitNode s .input tree
  have hname : ∀ name ∈ (Program.ofScene s (some tree)).declaredNames,
      name ≠ "p" ∧ ∀ f ∈ Function.helpers, name ≠ f.name := by
    intro name hname
    obtain ⟨v, hv, rfl⟩ := List.mem_map.mp hname
    have hlocal := (declared_emitNode_subperm s .input tree).subset hv
    obtain ⟨n, -, hv⟩ := List.mem_flatMap.mp hlocal
    exact Variable.name_ne_of_owner? (Node.owner?_of_mem_locals hv)
  constructor
  case nodup => exact hnodup
  case ne_input => exact fun hp => (hname _ hp).1 rfl
  case ne_helper => exact fun f hf hmem => (hname _ hmem).2 f hf rfl
  case assigns => exact hassign
  case statement?_eq => exact fun _ _ _ => Program.statement?_of_declare hnodup hassign

/-- A union whose steps are named like the union inside it, a turned disc that is named like a step
of the inner one, and a displacement with a child that it passes over. -/
def steppedScene : Node Float32 :=
  .combine "a" .union
    [.combine "a_1" .union [.circle "b" .zero 1.0, .circle "c" .zero 1.0],
      (Node.circle "a_1_1" .zero 1.0).withRotation 0.5,
      .combine "w" .displace
        [.circle "d" .zero 1.0, .circle "e" .zero 1.0, .circle "f" .zero 1.0]]

theorem singleAssignment_steppedScene :
    steppedScene.sanitizedIds.Nodup ∧
    (Program.ofScene .standard (some steppedScene)).SingleAssignment ∧
    "tmp_a_1" ∈ (Program.ofScene .standard (some steppedScene)).declaredNames ∧
    "tmp_a_1_1" ∈ (Program.ofScene .standard (some steppedScene)).declaredNames := by
  have hids : steppedScene.sanitizedIds.Nodup := by decide +kernel
  exact ⟨hids, singleAssignment_ofScene .standard hids, by decide +kernel, by decide +kernel⟩

end Shader

end DistanceField
