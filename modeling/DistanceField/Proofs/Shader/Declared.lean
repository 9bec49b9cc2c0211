import Mathlib
import DistanceField.Node.Build
import DistanceField.Number.Binary32
import DistanceField.Proofs.Node.Defect
import DistanceField.Proofs.Shader.Names
import DistanceField.Proofs.Shader.Stages

/-!
# Variables that a program declares

Every node of a tree declares variables of its own: a shape its point and its distance, an operation
one for a warp, one for each step of its fold and one for its finish. A program declares the
variables of all nodes and no others. Those of one node are distinct, and names tell variables
apart, so a name is declared twice exactly if two nodes have a variable in common.

Variables are named after sanitized identifiers. The check on trees looks at the identifiers
themselves, and distinct ones can be sanitized alike.
-/

namespace DistanceField

variable {α : Type}

open Shader (Variable sanitize)

/-! ### The variables of a node -/

/-- The variables of a fold over a first distance and a number of others. -/
def Fold.locals (id : String) (others : Nat) : Fold α → List Variable
  | .subtract | .smoothSubtract _ =>
    if others = 0 then [] else (List.range' 2 (others - 1)).map (.cutter id) ++ [.result id]
  | .union | .smoothUnion _ | .intersect | .smoothIntersect _ | .xor =>
    (List.range' 1 others).map (.step id)

/-- The variables of an operation on a first child and a number of others. -/
def Plan.locals (id : String) (others : Nat) : Plan α → List Variable
  | .displace _ => [.displaced id]
  | .stages warp fold finish =>
    (if warp.isSome then [.point id] else []) ++
      (fold.locals id others ++ if finish.isSome then [.result id] else [])

/-- The variables of a node. An operation without children has none. -/
def Node.locals [Scalar α] : Node α → List Variable
  | .primitive info _ => [.point (sanitize info.id), .distance (sanitize info.id)]
  | .operation _ _ [] => []
  | .operation info op (_ :: others) => op.plan.locals (sanitize info.id) others.length

/-- Nodes that have no variable in common. -/
def Node.Apart [Scalar α] (m n : Node α) : Prop := ∀ v ∈ m.locals, v ∉ n.locals

instance [Scalar α] : DecidableRel (Node.Apart (α := α)) :=
  fun m n => inferInstanceAs (Decidable (∀ v ∈ m.locals, v ∉ n.locals))

lemma Fold.mem_locals {id : String} {others : Nat} {fold : Fold α} {v : Variable}
    (h : v ∈ fold.locals id others) :
    (∃ i, v = .step id i) ∨ (∃ i, v = .cutter id i) ∨ v = .result id := by
  have hcut : v ∈ (if others = 0 then []
      else (List.range' 2 (others - 1)).map (Variable.cutter id) ++ [.result id]) →
      (∃ i, v = .cutter id i) ∨ v = .result id := by
    intro hv
    split_ifs at hv
    · cases hv
    · obtain hv | hv := List.mem_append.mp hv
      · obtain ⟨i, -, rfl⟩ := List.mem_map.mp hv
        exact .inl ⟨i, rfl⟩
      · exact .inr (List.mem_singleton.mp hv)
  cases fold with
  | subtract => exact .inr (hcut h)
  | smoothSubtract blend => exact .inr (hcut h)
  | _ =>
    obtain ⟨i, -, rfl⟩ := List.mem_map.mp h
    exact .inl ⟨i, rfl⟩

lemma Plan.owner?_of_mem_locals {id : String} {others : Nat} {plan : Plan α} {v : Variable}
    (h : v ∈ plan.locals id others) : v.owner? = some id := by
  cases plan with
  | displace strength =>
    obtain rfl := List.mem_singleton.mp h
    rfl
  | stages warp fold finish =>
    rw [locals, List.mem_append, List.mem_append, List.mem_ite_nil_right,
      List.mem_ite_nil_right] at h
    obtain ⟨-, h⟩ | h | ⟨-, h⟩ := h
    · obtain rfl := List.mem_singleton.mp h
      rfl
    · obtain ⟨i, rfl⟩ | ⟨i, rfl⟩ | rfl := Fold.mem_locals h <;> rfl
    · obtain rfl := List.mem_singleton.mp h
      rfl

/-- The variables of a node are named after it. -/
lemma Node.owner?_of_mem_locals [Scalar α] {n : Node α} {v : Variable} (h : v ∈ n.locals) :
    v.owner? = some (sanitize n.id) := by
  match n with
  | .primitive info body =>
    simp only [locals, List.mem_cons, List.not_mem_nil, or_false] at h
    obtain rfl | rfl := h <;> rfl
  | .operation info op [] => cases h
  | .operation info op (_ :: others) => exact Plan.owner?_of_mem_locals h

/-- Nodes whose identifiers are sanitized differently have no variable in common. -/
lemma Node.pairwise_apart [Scalar α] {tree : Node α} (h : tree.sanitizedIds.Nodup) :
    tree.preorder.Pairwise Apart := by
  rw [sanitizedIds, ids, List.map_map, List.Nodup, List.pairwise_map] at h
  refine h.imp ?_
  intro m n hne v hm hn
  have howner := (owner?_of_mem_locals hm).symm.trans (owner?_of_mem_locals hn)
  exact hne (Option.some.inj howner)

/-! ### No variable twice in a node -/

lemma Fold.nodup_locals (id : String) (others : Nat) (fold : Fold α) :
    (fold.locals id others).Nodup := by
  have hcut : (if others = 0 then []
      else (List.range' 2 (others - 1)).map (Variable.cutter id) ++ [.result id]).Nodup := by
    split_ifs
    · exact List.nodup_nil
    · refine List.nodup_append'.mpr ⟨?_, List.nodup_singleton _, ?_⟩
      · exact (List.nodup_range' 1).map fun _ _ h => (Variable.cutter.inj h).2
      · rw [List.disjoint_singleton, List.mem_map]
        rintro ⟨i, -, h⟩
        cases h
  cases fold with
  | subtract => exact hcut
  | smoothSubtract blend => exact hcut
  | _ => exact (List.nodup_range' 1).map fun _ _ h => (Variable.step.inj h).2

/-- Only subtractions bind the result of their fold, and they have no finish. -/
lemma Operator.result_notMem_locals_fold [Scalar α] {op : Operator α}
    (h : op.finish?.isSome = true) (id : String) (others : Nat) :
    Variable.result id ∉ op.fold.locals id others := by
  have hstep : Variable.result id ∉ (List.range' 1 others).map (Variable.step id) := by
    rw [List.mem_map]
    rintro ⟨i, -, hi⟩
    cases hi
  obtain ⟨kind, blend, params⟩ := op
  cases kind <;> simp only [finish?, Option.isSome_none, Bool.false_eq_true] at h <;>
  · dsimp only [fold]
    split_ifs <;> exact hstep

lemma Operator.nodup_locals [Scalar α] (op : Operator α) (id : String) (others : Nat) :
    (op.plan.locals id others).Nodup := by
  rw [plan]
  split_ifs with hkind
  · exact List.nodup_singleton _
  · have hsingle : ∀ (c : Bool) (v : Variable), (if c then [v] else []).Nodup := by
      intro c v
      split_ifs
      · exact List.nodup_singleton v
      · exact List.nodup_nil
    refine List.nodup_append'.mpr ⟨hsingle _ _, List.nodup_append'.mpr
      ⟨op.fold.nodup_locals id others, hsingle _ _, ?_⟩, ?_⟩
    · intro v hfold hfinish
      obtain ⟨hsome, hv⟩ := List.mem_ite_nil_right.mp hfinish
      obtain rfl := List.mem_singleton.mp hv
      exact op.result_notMem_locals_fold hsome id others hfold
    · intro v hwarp hrest
      obtain ⟨-, hv⟩ := List.mem_ite_nil_right.mp hwarp
      obtain rfl := List.mem_singleton.mp hv
      obtain hfold | hfinish := List.mem_append.mp hrest
      · obtain ⟨i, hi⟩ | ⟨i, hi⟩ | hi := Fold.mem_locals hfold <;> cases hi
      · cases List.mem_singleton.mp (List.mem_ite_nil_right.mp hfinish).2

lemma Node.nodup_locals [Scalar α] (n : Node α) : n.locals.Nodup := by
  match n with
  | .primitive info body =>
    exact List.nodup_cons.mpr ⟨by simp, List.nodup_singleton _⟩
  | .operation info op [] => exact List.nodup_nil
  | .operation info op (_ :: others) => exact op.nodup_locals _ _

/-! ### What statements declare -/

namespace Shader

/-- The variable that a statement declares. -/
def Statement.declares? : Statement α → Option Variable
  | .declare _ target _ => some target
  | .assign _ _ => none

/-- The variables that statements declare, in order. -/
def declared (ss : List (Statement α)) : List Variable := ss.filterMap Statement.declares?

/-- The names that a program declares, in order. -/
def Program.declaredNames (p : Program α) : List String :=
  (declared p.statements).map Variable.name

lemma declared_append (ss ts : List (Statement α)) :
    declared (ss ++ ts) = declared ss ++ declared ts :=
  List.filterMap_append

lemma declared_flatMap (ds : List (Draft α)) :
    declared (ds.flatMap Draft.statements) = ds.flatMap fun d => declared d.statements :=
  List.filterMap_flatMap

lemma declared_bind (before : List (Statement α)) (target : Variable) (value : Expr α) :
    declared (Draft.bind before target value).statements = declared before ++ [target] :=
  declared_append before _

/-- Each step of a fold declares the next number. -/
lemma declared_emitSteps (combine : Expr α → Expr α → Expr α) (target : Nat → Variable) (i : Nat)
    (acc : Expr α) (es : List (Expr α)) :
    declared (emitSteps combine target i acc es).statements
      = (List.range' i es.length).map target := by
  induction es generalizing i acc with
  | nil => rfl
  | cons e rest ih =>
    rw [emitSteps, List.length_cons, List.range'_succ, List.map_cons, ← ih]
    rfl

lemma declared_emitFold (s : Style α) (id : String) (d : Expr α) (ds : List (Expr α))
    (fold : Fold α) :
    declared (emitFold s id d ds fold).statements = fold.locals id ds.length := by
  have hcut : ∀ cut, declared (emitCut cut id d ds).statements
      = if ds.length = 0 then []
        else (List.range' 2 (ds.length - 1)).map (.cutter id) ++ [.result id] := by
    intro cut
    cases ds with
    | nil => rfl
    | cons first rest =>
      rw [emitCut, declared_bind, declared_emitSteps]
      rfl
  cases fold with
  | subtract => exact hcut _
  | smoothSubtract blend => exact hcut _
  | _ => exact declared_emitSteps _ _ _ _ _

variable [Scalar α]

lemma declared_emitPrimitive (s : Style α) (id : String) (outer : Variable) (b : Primitive α) :
    declared (emitPrimitive s id outer b).statements = [.point id, .distance id] := by
  rw [emitPrimitive, declared_bind]
  split_ifs <;> rfl

omit [Scalar α] in
lemma declared_emitWarp (s : Style α) (id : String) (outer : Variable) (warp : Option (Warp α)) :
    declared (emitWarp s id outer warp) = if warp.isSome then [.point id] else [] := by
  cases warp <;> rfl

omit [Scalar α] in
lemma declared_emitFinish (s : Style α) (id : String) (before : List (Statement α)) (d : Expr α)
    (finish : Option (Finish α)) :
    declared (emitFinish s id before d finish).statements
      = declared before ++ if finish.isSome then [.result id] else [] := by
  cases finish with
  | none => exact (List.append_nil _).symm
  | some finish => exact declared_bind before _ _

/-- An operation declares its own variables besides those of its children. A displacement passes
over children beyond the second. -/
lemma declared_emitPlan_perm (s : Style α) (id : String) (outer : Variable) {plan : Plan α}
    {d : Draft α} {ds : List (Draft α)}
    (h : ∀ strength, plan = .displace strength → ds.length ≤ 1) :
    (declared (emitPlan s id outer plan (d :: ds)).statements).Perm
      (plan.locals id ds.length ++ (d :: ds).flatMap fun d => declared d.statements) := by
  match plan, ds with
  | .displace strength, [] =>
    rw [emitPlan, declared_bind, List.flatMap_singleton]
    exact List.perm_append_comm
  | .displace strength, [source] =>
    rw [emitPlan, declared_bind, declared_append, List.flatMap_cons, List.flatMap_singleton]
    exact List.perm_append_comm
  | .displace strength, _ :: _ :: _ =>
    have hlength := h strength rfl
    simp at hlength
  | .stages warp fold finish, ds =>
    rw [emitPlan, declared_emitFinish, declared_append, declared_append, declared_emitWarp,
      declared_flatMap, declared_emitFold, List.length_map, Plan.locals]
    simp only [List.append_assoc]
    refine List.Perm.append_left _ ?_
    rw [← List.append_assoc (fold.locals id ds.length)]
    exact List.perm_append_comm

/-- The program of a tree declares the variables of its nodes. -/
lemma declared_emitNode_perm (s : Style α) {n : Node α} (h : n.WithinLimit)
    (outer : Variable) :
    (declared (emitNode s outer n).statements).Perm (n.preorder.flatMap Node.locals) := by
  induction n generalizing outer with
  | primitive info body =>
    rw [emitNode, declared_emitPrimitive]
    exact List.Perm.refl _
  | operation info op children ih =>
    cases children with
    | nil => exact List.Perm.refl _
    | cons c cs =>
      obtain ⟨hlimit, hbelow⟩ := Node.withinLimit_operation_iff.mp h
      have harity : ∀ strength, op.plan = .displace strength →
          (cs.map (emitNode s (childPoint (sanitize info.id) outer op.plan))).length ≤ 1 := by
        intro strength hplan
        rw [Operator.plan] at hplan
        split_ifs at hplan with hkind
        rw [List.length_map]
        exact Nat.le_of_succ_le_succ (hlimit hkind)
      have hchildren : ((c :: cs).flatMap fun m =>
            declared (emitNode s (childPoint (sanitize info.id) outer op.plan) m).statements).Perm
          ((c :: cs).flatMap fun m => m.preorder.flatMap Node.locals) :=
        List.Perm.flatMap_left _ fun m hm => ih m hm (hbelow m hm) _
      rw [emitNode_operation, List.map_cons, Node.preorder_eq, List.flatMap_cons,
        List.flatMap_assoc]
      refine (declared_emitPlan_perm s _ outer harity).trans ?_
      rw [← List.map_cons, List.flatMap_map, List.length_map]
      exact List.Perm.append_left _ hchildren

lemma nodup_declaredNames_ofScene_iff (s : Style α) {tree : Node α} (h : tree.WellFormed) :
    (Program.ofScene s (some tree)).declaredNames.Nodup
      ↔ tree.preorder.Pairwise Node.Apart := by
  have hperm := declared_emitNode_perm s h.withinLimit .input
  rw [Program.declaredNames, List.nodup_map_iff Variable.name_injective, Program.ofScene,
    hperm.nodup_iff, List.nodup_flatMap]
  exact and_iff_right fun n _ => n.nodup_locals

/-- An accepted tree has a program that declares no name twice exactly if no two of its nodes have a
variable in common. Nodes whose identifiers are sanitized differently have none. -/
theorem nodup_declaredNames_iff {tree : Node α} (h : tree.validate = .ok ()) (s : Style α) :
    ((Program.ofScene s (some tree)).declaredNames.Nodup
      ↔ tree.preorder.Pairwise Node.Apart) ∧
    (tree.sanitizedIds.Nodup → (Program.ofScene s (some tree)).declaredNames.Nodup) := by
  have hiff := nodup_declaredNames_ofScene_iff s ((Node.validate_eq_ok_iff tree).mp h)
  exact ⟨hiff, fun hids => hiff.mpr (Node.pairwise_apart hids)⟩

/-- A disc and a union around it can share a sanitized identifier: they have no variable in
common. -/
def sharedName : Node Float32 :=
  .combine "a-b" .union [.circle "a_b" ⟨0.0, 0.0⟩ 1.0, .circle "c" ⟨4.0, 0.0⟩ 1.0]

theorem nodup_declaredNames_sharedName :
    sharedName.validate = .ok () ∧ ¬ sharedName.sanitizedIds.Nodup ∧
      (Program.ofScene .standard (some sharedName)).declaredNames.Nodup := by
  have hvalid : sharedName.validate = .ok () := rfl
  refine ⟨hvalid, by decide +kernel, ?_⟩
  exact (nodup_declaredNames_iff hvalid .standard).1.mpr (by decide +kernel)

/-- Two discs whose identifiers differ only in characters that names cannot hold. -/
def clashingDiscs : Node Float32 :=
  .combine "u" .union [.circle "a-b" ⟨0.0, 0.0⟩ 1.0, .circle "a_b" ⟨4.0, 0.0⟩ 1.0]

/-- Two discs are accepted, and the program declares the point and the distance of one of them where
those of the other are declared already. -/
theorem declaredNames_clashingDiscs :
    clashingDiscs.validate = .ok () ∧
    (Program.ofScene .standard (some clashingDiscs)).declaredNames
      = ["p_a_b", "d_a_b", "p_a_b", "d_a_b", "tmp_u_1"] ∧
    ¬ (Program.ofScene .standard (some clashingDiscs)).declaredNames.Nodup := by
  have hnames : (Program.ofScene .standard (some clashingDiscs)).declaredNames
      = ["p_a_b", "d_a_b", "p_a_b", "d_a_b", "tmp_u_1"] := by decide +kernel
  exact ⟨rfl, hnames, hnames ▸ by decide⟩

end Shader

end DistanceField
