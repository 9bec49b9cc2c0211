import Mathlib
import DistanceField.Node.Validate
import DistanceField.Proofs.Flat.Flattening
import DistanceField.Proofs.Shader.Stages

/-!
# What matters of a tree

Names and what an editor shows do not matter: the field, the shader program, the flat form and the
check of a tree stay the same when they are erased.
-/

namespace DistanceField

variable {α : Type}

namespace Node

mutual

/-- The tree without names and without what an editor shows. -/
def essence : Node α → Node α
  | .primitive info body => .primitive { id := info.id } body
  | .operation info op children => .operation { id := info.id } op (essenceList children)

/-- The trees of a list without names and without what an editor shows. -/
def essenceList : List (Node α) → List (Node α)
  | [] => []
  | n :: rest => n.essence :: essenceList rest

end

lemma essenceList_eq (ns : List (Node α)) : essenceList ns = ns.map essence := by
  induction ns with
  | nil => rfl
  | cons n rest ih => rw [essenceList, ih, List.map_cons]

lemma essence_operation (info : Info) (op : Operator α) (children : List (Node α)) :
    (Node.operation info op children).essence
      = .operation { id := info.id } op (children.map essence) := by
  rw [essence, essenceList_eq]

lemma id_essence (n : Node α) : n.essence.id = n.id := by
  cases n <;> rfl

/-! ### The flat form -/

lemma record_essence (stack : List String) (n : Node α) :
    n.essence.record stack = n.record stack := by
  cases n with
  | primitive info body => rfl
  | operation info op children =>
    have hchildren : (children.map essence).map id = children.map id := by
      rw [List.map_map]
      exact List.map_congr_left fun c _ => id_essence c
    rw [essence_operation, record, record, children_operation, children_operation, hchildren]
    rfl

lemma records_essence (stack : List String) (n : Node α) :
    n.essence.records stack = n.records stack := by
  induction n generalizing stack with
  | primitive info body => rfl
  | operation info op children ih =>
    have hstack : (Node.operation info op children).essence.stackBelow stack
        = (Node.operation info op children).stackBelow stack := rfl
    rw [records_eq, records_eq stack (.operation info op children), record_essence, hstack,
      essence_operation, children_operation, children_operation, List.flatMap_map]
    refine congrArg (· ++ _) ?_
    exact List.flatMap_congr fun c hc => ih c hc _

lemma ofScene_map_essence (scene : Option (Node α)) :
    Flat.ofScene (scene.map essence) = Flat.ofScene scene := by
  cases scene with
  | none => rfl
  | some tree => simp only [Option.map_some, Flat.ofScene_some, records_essence, id_essence]

/-! ### The check -/

lemma defect?_essence (parent : Option String) (seen : List String) (n : Node α) :
    n.essence.defect? parent seen = n.defect? parent seen := by
  have hkind : n.essence.kind = n.kind := by cases n <;> rfl
  have hlength : n.essence.children.length = n.children.length := by
    cases n with
    | primitive info body => rfl
    | operation info op children => simp [essence_operation]
  rw [defect?, defect?, id_essence, hkind, hlength]

lemma checkList_essence {parent : String} {ns : List (Node α)}
    (h : ∀ n ∈ ns, ∀ parent seen, n.essence.check parent seen = n.check parent seen)
    (seen : List String) :
    checkList parent seen (ns.map essence) = checkList parent seen ns := by
  induction ns generalizing seen with
  | nil => rfl
  | cons n rest ih =>
    have hrest := ih fun m hm => h m (List.mem_cons_of_mem n hm)
    rw [List.map_cons, checkList, checkList, h n List.mem_cons_self]
    cases n.check (some parent) seen with
    | error defect => rfl
    | ok seen' => exact hrest seen'

lemma check_essence (n : Node α) (parent : Option String) (seen : List String) :
    n.essence.check parent seen = n.check parent seen := by
  induction n generalizing parent seen with
  | primitive info body => rfl
  | operation info op children ih =>
    have hdefect := defect?_essence parent seen (.operation info op children)
    rw [essence_operation] at hdefect ⊢
    rw [check, check, hdefect]
    cases (Node.operation info op children).defect? parent seen with
    | some defect => rfl
    | none => exact checkList_essence ih _

lemma validate_essence (tree : Node α) : tree.essence.validate = tree.validate := by
  rw [validate, validate, check_essence]

/-! ### The field and the program -/

variable [Scalar α]

lemma eval_essence (n : Node α) (p : Vec2 α) : n.essence.eval p = n.eval p := by
  induction n generalizing p with
  | primitive info body => rfl
  | operation info op children ih =>
    rw [essence_operation, eval, eval, evalList_eq, evalList_eq, List.map_map]
    exact congrArg _ (List.map_congr_left fun c hc => ih c hc _)

lemma eval_map_essence (scene : Option (Node α)) (p : Vec2 α) :
    Field.eval (scene.map essence) p = Field.eval scene p := by
  cases scene with
  | none => rfl
  | some tree => exact eval_essence tree p

open Shader in
lemma emitNode_essence (s : Style α) (outer : Variable) (n : Node α) :
    emitNode s outer n.essence = emitNode s outer n := by
  induction n generalizing outer with
  | primitive info body => rfl
  | operation info op children ih =>
    rw [essence_operation, emitNode_operation, emitNode_operation, List.map_map]
    exact congrArg _ (List.map_congr_left fun c hc => ih c hc _)

open Shader in
lemma program_map_essence (s : Style α) (scene : Option (Node α)) :
    Program.ofScene s (scene.map essence) = Program.ofScene s scene := by
  cases scene with
  | none => rfl
  | some tree => simp only [Option.map_some, Program.ofScene, emitNode_essence]

end Node

end DistanceField
