import Mathlib
import DistanceField.Proofs.Shader.Agreement

/-!
# The characters of a program

Identifiers may hold any characters, but a program takes over ASCII letters and digits only. Names
are words, expressions are put together from words, numbers and a few marks, and their parentheses
match. So no identifier and no number ends a statement or starts a line: a program has one line and
one semicolon for every statement.
-/

namespace DistanceField.Shader

/-! ### Words and code -/

/-- The characters of names. -/
def isWordChar (c : Char) : Bool := c.isAlphanum || c == '_'

/-- The characters of expressions. -/
def isCodeChar (c : Char) : Bool :=
  isWordChar c || ['.', ',', ' ', '(', ')', '+', '-', '*'].contains c

/-- The number of open parentheses after a character, or nothing if it closes one too many. -/
def nest? (depth : Nat) (c : Char) : Option Nat :=
  if c = '(' then some (depth + 1)
  else if c = ')' then (if depth = 0 then none else some (depth - 1))
  else some depth

/-- Every parenthesis of a text has its partner. -/
def Balanced (text : String) : Prop := text.toList.foldlM nest? 0 = some 0

def IsWord (text : String) : Prop := ∀ c ∈ text.toList, isWordChar c = true

/-- What expressions are put together from. -/
structure IsCode (text : String) : Prop where
  chars : ∀ c ∈ text.toList, isCodeChar c = true
  balanced : Balanced text

instance (text : String) : Decidable (IsWord text) :=
  List.decidableBAll (isWordChar · = true) text.toList

instance (text : String) : Decidable (Balanced text) :=
  inferInstanceAs (Decidable (text.toList.foldlM nest? 0 = some 0))

instance (text : String) : Decidable (IsCode text) :=
  have := List.decidableBAll (isCodeChar · = true) text.toList
  decidable_of_iff ((∀ c ∈ text.toList, isCodeChar c = true) ∧ Balanced text)
    ⟨fun h => ⟨h.1, h.2⟩, fun h => ⟨h.chars, h.balanced⟩⟩

lemma IsWord.append {s t : String} (hs : IsWord s) (ht : IsWord t) : IsWord (s ++ t) := by
  intro c hc
  rw [String.toList_append, List.mem_append] at hc
  exact hc.elim (hs c) (ht c)

lemma isWordChar_of_mem_toDigits {c : Char} {n : Nat} (h : c ∈ Nat.toDigits 10 n) :
    isWordChar c = true := by
  have hdigit := Nat.isDigit_of_mem_toDigits (by decide) (by decide) h
  simp [isWordChar, Char.isAlphanum, hdigit]

lemma isWord_repr (n : Nat) : IsWord (Nat.repr n) := by
  intro c hc
  rw [Nat.toList_repr] at hc
  exact isWordChar_of_mem_toDigits hc

lemma isWord_sanitize (id : String) : IsWord (sanitize id) := by
  intro c hc
  rw [sanitize, String.toList_map, List.mem_map] at hc
  obtain ⟨a, -, rfl⟩ := hc
  split_ifs with ha
  · simp [isWordChar, ha]
  · rfl

lemma nest?_add {d e : Nat} {c : Char} (k : Nat) (h : nest? d c = some e) :
    nest? (d + k) c = some (e + k) := by
  grind [nest?]

/-- Around a text, more parentheses may be open. -/
lemma foldlM_nest?_add {cs : List Char} {d e : Nat} (k : Nat) (h : cs.foldlM nest? d = some e) :
    cs.foldlM nest? (d + k) = some (e + k) := by
  induction cs generalizing d with
  | nil => simpa using h
  | cons c cs ih =>
    rw [List.foldlM_cons] at h ⊢
    obtain ⟨d', hd', h⟩ := Option.bind_eq_some_iff.mp h
    rw [nest?_add k hd']
    exact ih h

lemma foldlM_nest?_of_forall {cs : List Char} (h : ∀ c ∈ cs, c ≠ '(' ∧ c ≠ ')') (d : Nat) :
    cs.foldlM nest? d = some d := by
  induction cs with
  | nil => rfl
  | cons c cs ih =>
    obtain ⟨hc, hcs⟩ := List.forall_mem_cons.mp h
    rw [List.foldlM_cons, nest?, if_neg hc.1, if_neg hc.2]
    exact ih hcs

namespace IsCode

lemma append {s t : String} (hs : IsCode s) (ht : IsCode t) : IsCode (s ++ t) where
  chars := by
    intro c hc
    rw [String.toList_append, List.mem_append] at hc
    exact hc.elim (hs.chars c) (ht.chars c)
  balanced := by
    rw [Balanced, String.toList_append, List.foldlM_append, hs.balanced]
    exact ht.balanced

lemma enclose {s : String} (h : IsCode s) : IsCode ("(" ++ s ++ ")") where
  chars := by
    intro c hc
    rw [String.toList_append, String.toList_append] at hc
    have hcases : c = '(' ∨ c ∈ s.toList ∨ c = ')' := by simpa using hc
    rcases hcases with rfl | hc | rfl
    · rfl
    · exact h.chars c hc
    · rfl
  balanced := by
    have hinner : s.toList.foldlM nest? 1 = some 1 := foldlM_nest?_add 1 h.balanced
    rw [Balanced, String.toList_append, String.toList_append, List.foldlM_append,
      List.foldlM_append]
    calc (some 1 >>= fun d => s.toList.foldlM nest? d) >>= (fun d => [')'].foldlM nest? d)
        = (s.toList.foldlM nest? 1) >>= (fun d => [')'].foldlM nest? d) := rfl
      _ = some 0 := by rw [hinner]; rfl

/-- Words and numbers are code: they have no parentheses. -/
lemma of_forall {s : String} (h : ∀ c ∈ s.toList, isWordChar c = true ∨ c = '.' ∨ c = '-') :
    IsCode s where
  chars c hc := by
    rcases h c hc with hword | rfl | rfl
    · simp [isCodeChar, hword]
    · rfl
    · rfl
  balanced := by
    refine foldlM_nest?_of_forall (fun c hc => ?_) 0
    constructor
    · rintro rfl
      exact absurd (h _ hc) (by decide)
    · rintro rfl
      exact absurd (h _ hc) (by decide)

lemma of_word {s : String} (h : IsWord s) : IsCode s :=
  of_forall fun c hc => .inl (h c hc)

lemma parenthesize (needed : Bool) {s : String} (h : IsCode s) :
    IsCode (parenthesize needed s) := by
  cases needed with
  | false => exact h
  | true => exact h.enclose

lemma commas {ts : List String} (h : ∀ t ∈ ts, IsCode t) : IsCode (commas ts) := by
  induction ts with
  | nil => decide
  | cons t rest ih =>
    obtain ⟨ht, hrest⟩ := List.forall_mem_cons.mp h
    cases rest with
    | nil => exact ht
    | cons u rest => exact (ht.append (by decide)).append (ih hrest)

/-- What cannot stand in code does not occur there. -/
lemma count_eq_zero {s : String} (h : IsCode s) {c : Char} (hc : isCodeChar c = false) :
    s.toList.count c = 0 := by
  refine List.count_eq_zero.mpr fun hmem => ?_
  rw [h.chars c hmem] at hc
  cases hc

end IsCode

/-! ### Numbers -/

/-- Printed numbers can stand in expressions. -/
class PlainText (α : Type) [FixedText α] : Prop where
  isCode_fixed : ∀ (places : Nat) (x : α), IsCode (FixedText.fixed places x)

lemma isWordChar_or_eq_of_mem_pointed {places n : Nat} {c : Char}
    (h : c ∈ Decimal.pointed places n) : isWordChar c = true ∨ c = '.' := by
  have hpadded : ∀ {k}, c ∈ List.replicate k '0' ++ Nat.toDigits 10 n → isWordChar c = true := by
    intro k hc
    rcases List.mem_append.mp hc with hc | hc
    · obtain rfl := List.eq_of_mem_replicate hc
      rfl
    · exact isWordChar_of_mem_toDigits hc
  rw [Decimal.pointed] at h
  split_ifs at h with hplaces
  · exact .inl (hpadded h)
  · rcases List.mem_append.mp h with hc | hc
    · exact .inl (hpadded (List.mem_of_mem_take hc))
    · rcases List.mem_cons.mp hc with rfl | hc
      · exact .inr rfl
      · exact .inl (hpadded (List.mem_of_mem_drop hc))

instance : PlainText Float32 where
  isCode_fixed places x := by
    change IsCode (Decimal.fixed places x)
    rw [Decimal.fixed]
    split
    · refine .of_forall fun c hc => ?_
      rw [String.toList_ofList] at hc
      split_ifs at hc
      · rcases List.mem_cons.mp hc with rfl | hc
        · exact .inr (.inr rfl)
        · exact (isWordChar_or_eq_of_mem_pointed hc).imp_right .inl
      · exact (isWordChar_or_eq_of_mem_pointed hc).imp_right .inl
    · split_ifs <;> decide

/-! ### Expressions -/

variable {α : Type} [FixedText α]

/-- The text of an expression can stand in expressions. -/
def Expr.Clean (e : Expr α) : Prop := ∀ level, IsCode (e.render level)

/-- A variable that a node binds; its name has the identifier of the node as a word. -/
def Variable.Local (v : Variable) : Prop := ∃ id, v.owner? = some id ∧ IsWord id

lemma Variable.isWord_name {v : Variable} (h : ∀ id ∈ v.owner?, IsWord id) : IsWord v.name := by
  cases v with
  | input => decide
  | point id | distance id | displaced id | result id =>
    exact IsWord.append (by decide) (h id rfl)
  | step id i | cutter id i =>
    exact IsWord.append (IsWord.append (IsWord.append (by decide) (h id rfl)) (by decide))
      (isWord_repr i)

lemma Function.isWord_name (f : Function) : IsWord f.name := by
  cases f <;> decide

namespace Expr

lemma clean_var {v : Variable} (h : ∀ id ∈ v.owner?, IsWord id) : (var v : Expr α).Clean :=
  fun _ => .of_word (Variable.isWord_name h)

lemma clean_local {v : Variable} (h : v.Local) : (var v : Expr α).Clean := by
  obtain ⟨id, hv, hid⟩ := h
  refine clean_var fun id' hid' => ?_
  obtain rfl : id = id' := Option.some.inj (hv.symm.trans hid')
  exact hid

lemma clean_number [PlainText α] (places : Nat) (value : α) : (number places value).Clean :=
  fun _ => PlainText.isCode_fixed places value

@[simp] lemma clean_styled [PlainText α] (s : Style α) (value : α) : (s.number value).Clean :=
  clean_number s.places value

@[simp] lemma clean_flag (value : Bool) : (flag value : Expr α).Clean := by
  intro level
  cases value with
  | false => exact (by decide : IsCode "false")
  | true => exact (by decide : IsCode "true")

lemma clean_coordinate (axis : Axis) {e : Expr α} (h : e.Clean) : (coordinate axis e).Clean := by
  intro level
  refine ((h 3).append (by decide)).append ?_
  cases axis <;> decide

lemma clean_neg {e : Expr α} (h : e.Clean) : (neg e).Clean :=
  fun _ => .parenthesize _ (.append (by decide) (h 3))

lemma clean_add {a b : Expr α} (ha : a.Clean) (hb : b.Clean) : (add a b).Clean :=
  fun _ => .parenthesize _ (((ha 0).append (by decide)).append (hb 1))

lemma clean_sub {a b : Expr α} (ha : a.Clean) (hb : b.Clean) : (sub a b).Clean :=
  fun _ => .parenthesize _ (((ha 0).append (by decide)).append (hb 1))

lemma clean_mul {a b : Expr α} (ha : a.Clean) (hb : b.Clean) : (mul a b).Clean :=
  fun _ => .parenthesize _ (((ha 1).append (by decide)).append (hb 2))

lemma renderList_eq (es : List (Expr α)) : renderList es = es.map (render 0) := by
  induction es with
  | nil => rfl
  | cons e rest ih => rw [renderList, ih, List.map_cons]

lemma clean_call (f : Function) {args : List (Expr α)} (h : ∀ e ∈ args, e.Clean) :
    (call f args).Clean := by
  intro level
  have hargs : IsCode (commas (renderList args)) := by
    rw [renderList_eq]
    exact .commas (List.forall_mem_map.mpr fun e he => h e he 0)
  have htext : render level (call f args)
      = f.name ++ ("(" ++ commas (renderList args) ++ ")") := by
    simp only [render, String.append_assoc]
  rw [htext]
  exact (IsCode.of_word f.isWord_name).append hargs.enclose

end Expr

/-! ### Statements -/

/-- The target of a statement is local to a node, and its value can be printed. -/
structure Statement.Clean (st : Statement α) : Prop where
  target : st.target.Local
  value : st.value.Clean

structure Draft.Clean (d : Draft α) : Prop where
  statements : ∀ st ∈ d.statements, st.Clean
  result : d.result.Clean

lemma clean_bind {before : List (Statement α)} {target : Variable} {value : Expr α}
    (hbefore : ∀ st ∈ before, st.Clean) (htarget : target.Local) (hvalue : value.Clean) :
    (Draft.bind before target value).Clean where
  statements := by
    intro st hst
    rcases List.mem_append.mp hst with hst | hst
    · exact hbefore st hst
    · obtain rfl := List.mem_singleton.mp hst
      exact ⟨htarget, hvalue⟩
  result := Expr.clean_local htarget

/-- Combining keeps expressions clean. -/
def KeepsClean (combine : Expr α → Expr α → Expr α) : Prop :=
  ∀ {a b}, a.Clean → b.Clean → (combine a b).Clean

lemma clean_emitSteps {combine : Expr α → Expr α → Expr α} {target : Nat → Variable} {i : Nat}
    {acc : Expr α} {es : List (Expr α)} (hcombine : KeepsClean combine)
    (htarget : ∀ j, (target j).Local) (hacc : acc.Clean) (hes : ∀ e ∈ es, e.Clean) :
    (emitSteps combine target i acc es).Clean := by
  induction es generalizing i acc with
  | nil => exact ⟨by simp [emitSteps], hacc⟩
  | cons e rest ih =>
    obtain ⟨he, hrest⟩ := List.forall_mem_cons.mp hes
    have hlater := ih (i := i + 1) (Expr.clean_local (htarget i)) hrest
    refine ⟨List.forall_mem_cons.mpr ⟨?_, hlater.statements⟩, hlater.result⟩
    exact ⟨htarget i, hcombine hacc he⟩

section

variable {id : String} (hid : IsWord id)
include hid

lemma clean_emitCut {cut : Expr α → Expr α → Expr α} (hcut : KeepsClean cut) {base : Expr α}
    (hbase : base.Clean) {es : List (Expr α)} (hes : ∀ e ∈ es, e.Clean) :
    (emitCut cut id base es).Clean := by
  cases es with
  | nil => exact ⟨by simp [emitCut], hbase⟩
  | cons first rest =>
    obtain ⟨hfirst, hrest⟩ := List.forall_mem_cons.mp hes
    have hcutter : (emitSteps (fun a b => .call .min [a, b]) (.cutter id) 2 first rest).Clean :=
      clean_emitSteps (fun ha hb => Expr.clean_call _ (by simp [ha, hb]))
        (fun j => ⟨id, rfl, hid⟩) hfirst hrest
    exact clean_bind hcutter.statements ⟨id, rfl, hid⟩ (hcut hbase hcutter.result)

lemma clean_emitFold [PlainText α] (s : Style α) {d : Expr α} (hd : d.Clean) {ds : List (Expr α)}
    (hds : ∀ e ∈ ds, e.Clean) (fold : Fold α) : (emitFold s id d ds fold).Clean := by
  have hstep : ∀ j, (Variable.step id j).Local := fun j => ⟨id, rfl, hid⟩
  cases fold with
  | subtract =>
    have hcut : KeepsClean fun base cutter : Expr α => .call .max [base, .neg cutter] :=
      fun ha hb => Expr.clean_call _ (by simp [ha, Expr.clean_neg hb])
    exact clean_emitCut hid hcut hd hds
  | smoothSubtract k =>
    have hcut : KeepsClean fun base cutter => .call .smoothSubtraction [cutter, base, s.number k] :=
      fun ha hb => Expr.clean_call _ (by simp [ha, hb])
    exact clean_emitCut hid hcut hd hds
  | union | smoothUnion _ | intersect | smoothIntersect _ | xor =>
    exact clean_emitSteps (fun ha hb => Expr.clean_call _ (by simp [ha, hb])) hstep hd hds

end

section

variable [PlainText α] (s : Style α)

@[simp] lemma clean_vector (v : Vec2 α) : (s.vector v).Clean :=
  Expr.clean_call _ (by simp)

lemma clean_absent : s.absent.Clean :=
  ⟨by simp [Style.absent], Expr.clean_number 1 s.sentinel⟩

lemma clean_finished {d : Expr α} (hd : d.Clean) (finish : Finish α) :
    (finished s d finish).Clean := by
  cases finish with
  | dilate radius => exact Expr.clean_sub hd (by simp)
  | erode radius => exact Expr.clean_add hd (by simp)
  | shell thickness => exact Expr.clean_sub (Expr.clean_call _ (by simp [hd])) (by simp)
  | invert => exact Expr.clean_neg hd
  | clamp lo hi => exact Expr.clean_call _ (by simp [hd])

lemma clean_warpedPoint {p : Variable} (hp : (Expr.var p : Expr α).Clean) (warp : Warp α) :
    (warpedPoint s p warp).Clean := by
  cases warp <;> exact Expr.clean_call _ (by simp [hp])

lemma clean_emitFinish {id : String} (hid : IsWord id) {before : List (Statement α)}
    (hbefore : ∀ st ∈ before, st.Clean) {d : Expr α} (hd : d.Clean) (finish : Option (Finish α)) :
    (emitFinish s id before d finish).Clean := by
  cases finish with
  | none => exact ⟨hbefore, hd⟩
  | some finish => exact clean_bind hbefore ⟨id, rfl, hid⟩ (clean_finished s hd finish)

lemma clean_emitWarp {id : String} (hid : IsWord id) {outer : Variable}
    (houter : (Expr.var outer : Expr α).Clean) (warp : Option (Warp α)) :
    ∀ st ∈ emitWarp s id outer warp, st.Clean := by
  cases warp with
  | none => simp [emitWarp]
  | some warp =>
    intro st hst
    obtain rfl := List.mem_singleton.mp hst
    exact ⟨⟨id, rfl, hid⟩, clean_warpedPoint s houter warp⟩

variable [Scalar α]

lemma clean_waveHeight {p : Variable} (hp : (Expr.var p : Expr α).Clean) (strength : α) :
    (waveHeight s p strength).Clean := by
  have hwave : ∀ axis, (Expr.call .sin [.mul (.coordinate axis (.var p))
      (.number 1 (waveFrequency : α))]).Clean := by
    intro axis
    refine Expr.clean_call _ ?_
    simpa using Expr.clean_mul (Expr.clean_coordinate axis hp) (Expr.clean_number 1 waveFrequency)
  exact Expr.clean_mul (Expr.clean_mul (by simp) (hwave .x)) (hwave .y)

lemma clean_shapeDistance {p : Variable} (hp : (Expr.var p : Expr α).Clean) (shape : Shape α) :
    (shapeDistance s p shape).Clean := by
  cases shape <;> exact Expr.clean_call _ (by simp [hp])

variable {id : String} (hid : IsWord id)
include hid

lemma clean_emitPrimitive {outer : Variable} (houter : (Expr.var outer : Expr α).Clean)
    (b : Primitive α) : (emitPrimitive s id outer b).Clean := by
  have hpoint : (Variable.point id).Local := ⟨id, rfl, hid⟩
  have hp : (Expr.var (.point id) : Expr α).Clean := Expr.clean_local hpoint
  have hmove : (Statement.declare .vec2 (.point id)
      (.sub (.var outer) (s.vector b.position))).Clean :=
    ⟨hpoint, Expr.clean_sub houter (by simp)⟩
  have hturn : (Statement.assign (.point id)
      (.call .rotate [.var (.point id), s.number b.rotation])).Clean :=
    ⟨hpoint, Expr.clean_call _ (by simp [hp])⟩
  refine clean_bind ?_ ⟨id, rfl, hid⟩ (clean_shapeDistance s hp b.shape)
  split_ifs <;> simp [hmove, hturn]

lemma clean_emitPlan {outer : Variable} (houter : (Expr.var outer : Expr α).Clean) (plan : Plan α)
    {drafts : List (Draft α)} (hdrafts : ∀ d ∈ drafts, d.Clean) :
    (emitPlan s id outer plan drafts).Clean := by
  have hstatements : ∀ st ∈ drafts.flatMap Draft.statements, st.Clean := by
    intro st hst
    obtain ⟨d, hd, hst⟩ := List.mem_flatMap.mp hst
    exact (hdrafts d hd).statements st hst
  match plan, drafts with
  | .displace _, [] | .stages _ _ _, [] => exact clean_absent s
  | .displace strength, [base] =>
    have hbase := hdrafts base (by simp)
    exact clean_bind hbase.statements ⟨id, rfl, hid⟩
      (Expr.clean_add hbase.result (clean_waveHeight s houter strength))
  | .displace strength, base :: source :: _ =>
    have hbase := hdrafts base (by simp)
    have hsource := hdrafts source (by simp)
    refine clean_bind ?_ ⟨id, rfl, hid⟩
      (Expr.clean_add hbase.result (Expr.clean_mul (by simp) hsource.result))
    exact List.forall_mem_append.mpr ⟨hbase.statements, hsource.statements⟩
  | .stages warp fold finish, d :: ds =>
    obtain ⟨hd, hds⟩ := List.forall_mem_cons.mp hdrafts
    have hfolded := clean_emitFold hid s hd.result
      (List.forall_mem_map.mpr fun c hc => (hds c hc).result) fold
    rw [emitPlan]
    refine clean_emitFinish s hid ?_ hfolded.result finish
    refine List.forall_mem_append.mpr ⟨List.forall_mem_append.mpr ⟨?_, ?_⟩, hfolded.statements⟩
    · exact clean_emitWarp s hid houter warp
    · exact hstatements

end

lemma clean_emitNode [PlainText α] [Scalar α] (s : Style α) {outer : Variable}
    (houter : (Expr.var outer : Expr α).Clean) (n : Node α) : (emitNode s outer n).Clean := by
  induction n generalizing outer with
  | primitive info body => exact clean_emitPrimitive s (isWord_sanitize info.id) houter body
  | operation info op children ih =>
    have hid := isWord_sanitize info.id
    have hpoint : (Expr.var (childPoint (sanitize info.id) outer op.plan) : Expr α).Clean := by
      cases op.plan with
      | displace strength => exact houter
      | stages warp fold finish =>
        cases warp with
        | none => exact houter
        | some warp => exact Expr.clean_local ⟨_, rfl, hid⟩
    rw [emitNode_operation]
    refine clean_emitPlan s hid houter op.plan ?_
    exact List.forall_mem_map.mpr fun c hc => ih c hc hpoint

/-! ### Programs -/

/-- The beginnings of the names that nodes bind. -/
def roles : List String := ["p_", "d_", "mod_", "res_", "tmp_", "cut_"]

lemma exists_name_eq {v : Variable} (h : v.Local) :
    ∃ role ∈ roles, ∃ rest, v.name = role ++ rest ∧ IsWord rest := by
  obtain ⟨id, hv, hid⟩ := h
  have hnumbered : ∀ i, IsWord (id ++ ("_" ++ Nat.repr i)) :=
    fun i => hid.append (IsWord.append (by decide) (isWord_repr i))
  cases v with
  | input => cases hv
  | point | distance | displaced | result =>
    obtain rfl := Option.some.inj hv
    exact ⟨_, by simp [roles], _, rfl, hid⟩
  | step id' i =>
    obtain rfl : id' = id := Option.some.inj hv
    exact ⟨"tmp_", by simp [roles], _, by simp only [Variable.name, String.append_assoc],
      hnumbered i⟩
  | cutter id' i =>
    obtain rfl : id' = id := Option.some.inj hv
    exact ⟨"cut_", by simp [roles], _, by simp only [Variable.name, String.append_assoc],
      hnumbered i⟩

/-- A line of a statement has no marks but `=` and the semicolon at its end. -/
lemma count_line {st : Statement α} (h : st.Clean) {c : Char} (hc : isCodeChar c = false)
    (hne : c ≠ '=') : st.line.toList.count c = [';'].count c := by
  have hspace : c ≠ ' ' := by
    rintro rfl
    cases hc
  have heq : " = ".toList.count c = 0 := by
    rw [List.count_eq_zero]
    simp [hne, hspace]
  have hname : IsCode st.target.name := by
    obtain ⟨id, hid, hword⟩ := h.target
    exact .of_word (Variable.isWord_name (by simp [hid, hword]))
  have hvalue : IsCode st.value.text := h.value 0
  have hname' := hname.count_eq_zero hc
  have hvalue' := hvalue.count_eq_zero hc
  have hend : ";".toList = [';'] := rfl
  cases st with
  | declare type target value =>
    have hstart : IsCode ("    " ++ type.name ++ " ") := by
      cases type <;> decide
    have hstart' := hstart.count_eq_zero hc
    simp only [Statement.line, Statement.target, Statement.value, String.toList_append,
      List.count_append, hend] at *
    omega
  | assign target value =>
    have hstart : IsCode "    " := by decide
    have hstart' := hstart.count_eq_zero hc
    simp only [Statement.line, Statement.target, Statement.value, String.toList_append,
      List.count_append, hend] at *
    omega

namespace Program

/-- The lines of the function `map`. -/
def mapLines (p : Program α) : List (List Char) :=
  "float map(vec2 p) \x7b".toList :: (p.statements.map (·.line.toList)
    ++ [("    return " ++ p.result.text ++ ";").toList, "\x7d".toList])

lemma intercalate_lines (sts : List (Statement α)) {rest : List (List Char)} (h : rest ≠ []) :
    ['\n'].intercalate (sts.map (·.line.toList) ++ rest)
      = (lines sts).toList ++ ['\n'].intercalate rest := by
  induction sts with
  | nil => simp [lines]
  | cons st sts ih =>
    rw [List.map_cons, List.cons_append, List.intercalate_cons_of_ne_nil (by simp [h]), ih, lines]
    simp

lemma toList_mapFunction (p : Program α) :
    p.mapFunction.toList = "float map(vec2 p) \x7b".toList ++ '\n' :: ((lines p.statements).toList
      ++ (("    return " ++ p.result.text ++ ";").toList ++ '\n' :: "\x7d".toList)) := by
  have hfirst : "float map(vec2 p) \x7b\n".toList = "float map(vec2 p) \x7b".toList ++ ['\n'] := by
    decide +kernel
  have hlast : ";\n\x7d".toList = ";".toList ++ '\n' :: "\x7d".toList := by
    decide +kernel
  have htext : p.mapFunction = "float map(vec2 p) \x7b\n" ++ lines p.statements ++ "    return "
      ++ p.result.text ++ ";\n\x7d" := rfl
  simp only [htext, String.toList_append, hfirst, hlast, List.append_assoc, List.cons_append,
    List.nil_append]

lemma count_lines {sts : List (Statement α)} (h : ∀ st ∈ sts, st.Clean) :
    (lines sts).toList.count ';' = sts.length := by
  induction sts with
  | nil => rfl
  | cons st sts ih =>
    obtain ⟨hst, hsts⟩ := List.forall_mem_cons.mp h
    have hline := count_line hst (c := ';') (by decide) (by decide)
    rw [lines, String.toList_append, String.toList_append, List.count_append, List.count_append,
      hline, ih hsts]
    simp [Nat.add_comm]

variable {p : Program α} (hstatements : ∀ st ∈ p.statements, st.Clean)
  (hresult : p.result.Clean)
include hstatements hresult

lemma splitOn_mapFunction : p.mapFunction.toList.splitOn '\n' = p.mapLines := by
  have hnewline : isCodeChar '\n' = false := by decide
  have hreturn : '\n' ∉ ("    return " ++ p.result.text ++ ";").toList := by
    have htext := (hresult 0).count_eq_zero hnewline
    rw [List.count_eq_zero] at htext
    simp only [String.toList_append, List.mem_append, not_or]
    exact ⟨⟨by decide, htext⟩, by decide⟩
  have hlines : p.mapFunction.toList = ['\n'].intercalate p.mapLines := by
    rw [toList_mapFunction, mapLines, List.intercalate_cons_of_ne_nil (by simp),
      intercalate_lines _ (by simp), List.intercalate_cons_cons, List.intercalate_singleton]
    simp only [List.append_assoc, List.singleton_append]
  rw [hlines]
  refine List.splitOn_intercalate '\n' ?_ (List.cons_ne_nil _ _)
  simp only [mapLines, List.forall_mem_cons, List.forall_mem_append, List.forall_mem_map]
  refine ⟨by decide, fun st hst => ?_, hreturn, by decide, by simp⟩
  rw [← List.count_eq_zero, count_line (hstatements st hst) hnewline (by decide)]
  rfl

lemma count_mapFunction : p.mapFunction.toList.count ';' = p.statements.length + 1 := by
  have htext : p.result.text.toList.count ';' = 0 := (hresult 0).count_eq_zero (by decide)
  have hfirst : "float map(vec2 p) \x7b".toList.count ';' = 0 := by decide
  have hreturn : "    return ".toList.count ';' = 0 := by decide
  have hend : ";".toList.count ';' = 1 := by decide
  have hlast : "\x7d".toList.count ';' = 0 := by decide
  rw [toList_mapFunction]
  simp only [String.toList_append, List.count_append, List.count_cons, hfirst, hreturn, htext,
    hend, hlast, count_lines hstatements]
  simp

end Program

/-- Whatever the identifiers and numbers of a scene are, the names of its program are words, its
expressions are code with matching parentheses, and every statement has a line and a semicolon. -/
theorem Program.isCode_ofScene (s : Style Float32) (scene : Option (Node Float32)) :
    let program := ofScene s scene
    (∀ st ∈ program.statements,
      ∃ role ∈ roles, ∃ rest, st.name = role ++ rest ∧ ∀ c ∈ rest.toList, isWordChar c = true) ∧
    (∀ e ∈ program.expressions,
      (∀ c ∈ e.text.toList, isCodeChar c = true) ∧ Balanced e.text) ∧
    (program.mapFunction.toList.splitOn '\n').length = program.statements.length + 3 ∧
    program.mapFunction.toList.count ';' = program.statements.length + 1 := by
  intro program
  have hclean : (∀ st ∈ program.statements, st.Clean) ∧ program.result.Clean := by
    cases scene with
    | none => exact ⟨(clean_absent s).statements, (clean_absent s).result⟩
    | some tree =>
      have hinput : (Expr.var .input : Expr Float32).Clean :=
        Expr.clean_var (by simp [Variable.owner?])
      exact ⟨(clean_emitNode s hinput tree).statements, (clean_emitNode s hinput tree).result⟩
  obtain ⟨hstatements, hresult⟩ := hclean
  refine ⟨fun st hst => exists_name_eq (hstatements st hst).target, ?_, ?_, ?_⟩
  · intro e he
    have hcode : IsCode e.text := by
      rcases List.mem_append.mp he with he | he
      · obtain ⟨st, hst, rfl⟩ := List.mem_map.mp he
        exact (hstatements st hst).value 0
      · obtain rfl := List.mem_singleton.mp he
        exact hresult 0
    exact ⟨hcode.chars, hcode.balanced⟩
  · rw [splitOn_mapFunction hstatements hresult]
    simp [mapLines]
  · exact count_mapFunction hstatements hresult

end DistanceField.Shader
