import Mathlib
import DistanceField.Shader.Program

/-!
# Reading expressions back

The text of an expression is read from left to right with the precedence of the shader language. A
coordinate binds tighter than a sign, a sign tighter than a product, and a product tighter than a
sum; operators of one level group to the left. What stands to the left of an operand waits on a
stack, and is grouped with it once the next operator is seen to bind no tighter.

Reading an expression's text gives the expression, so the values of expressions are those of their
texts.
-/

namespace DistanceField.Shader

variable {α : Type}

/-- The parts of the text of an expression. A literal stands for the number it is printed from, a
call includes its opening parenthesis, and a coordinate the point in front of it. -/
inductive Token (α : Type) where
  | var (v : Variable)
  | number (places : Nat) (value : α)
  | flag (value : Bool)
  | call (f : Function)
  | coordinate (axis : Axis)
  | plus
  | minus
  | times
  | opening
  | closing
  | comma
  | space

namespace Token

variable [FixedText α]

/-- The text of a token. -/
def text : Token α → String
  | .var v => v.name
  | .number places value => FixedText.fixed places value
  | .flag true => "true"
  | .flag false => "false"
  | .call f => f.name ++ "("
  | .coordinate axis => "." ++ axis.name
  | .plus => "+"
  | .minus => "-"
  | .times => "*"
  | .opening => "("
  | .closing => ")"
  | .comma => ","
  | .space => " "

/-- The text of a list of tokens. -/
def texts : List (Token α) → String
  | [] => ""
  | t :: rest => t.text ++ texts rest

end Token

/-! ### Writing -/

/-- Tokens, in parentheses if they are needed. -/
def enclose (needed : Bool) (ts : List (Token α)) : List (Token α) :=
  if needed then .opening :: ts ++ [.closing] else ts

/-- Lists of tokens with commas between them. -/
def separate : List (List (Token α)) → List (Token α)
  | [] => []
  | [ts] => ts
  | ts :: us :: rest => ts ++ .comma :: .space :: separate (us :: rest)

/-- The binary operators. -/
inductive BinaryOp where
  | plus
  | minus
  | times

namespace BinaryOp

/-- How tightly an operator binds. -/
def level : BinaryOp → Nat
  | .plus | .minus => 0
  | .times => 1

/-- The token of an operator. -/
def token : BinaryOp → Token α
  | .plus => .plus
  | .minus => .minus
  | .times => .times

/-- The expression of an operator and its operands. -/
def apply : BinaryOp → Expr α → Expr α → Expr α
  | .plus => .add
  | .minus => .sub
  | .times => .mul

/-- Tokens with an operator between them. -/
def between (op : BinaryOp) (ts us : List (Token α)) : List (Token α) :=
  ts ++ .space :: op.token :: .space :: us

end BinaryOp

namespace Expr

mutual

/-- The tokens of an expression where at least a level of precedence is asked for. -/
def tokens : Nat → Expr α → List (Token α)
  | _, .var v => [.var v]
  | _, .number places value => [.number places value]
  | _, .flag value => [.flag value]
  | _, .coordinate axis e => tokens 3 e ++ [.coordinate axis]
  | level, .neg e => enclose (2 < level) (.minus :: tokens 3 e)
  | level, .add a b => enclose (0 < level) (BinaryOp.plus.between (tokens 0 a) (tokens 1 b))
  | level, .sub a b => enclose (0 < level) (BinaryOp.minus.between (tokens 0 a) (tokens 1 b))
  | level, .mul a b => enclose (1 < level) (BinaryOp.times.between (tokens 1 a) (tokens 2 b))
  | _, .call f args => .call f :: separate (tokensList args) ++ [.closing]

/-- The tokens of a list of arguments. -/
def tokensList : List (Expr α) → List (List (Token α))
  | [] => []
  | e :: rest => tokens 0 e :: tokensList rest

end

end Expr

/-! ### Reading -/

/-- What waits for the operand to its right. A call has the arguments that are read already. -/
inductive Pending (α : Type) where
  | negate
  | binary (op : BinaryOp) (left : Expr α)
  | group
  | call (f : Function) (args : List (Expr α))

/-- A text read up to some place, where an operand has to follow or has just been read. -/
inductive Reading (α : Type) where
  | operand (stack : List (Pending α))
  | operator (e : Expr α) (stack : List (Pending α))

/-- Group an operand with everything to its left that binds at least as tightly as a level. -/
def settle (level : Nat) (e : Expr α) : List (Pending α) → Expr α × List (Pending α)
  | .negate :: stack => settle level (.neg e) stack
  | .binary op left :: stack =>
    if level ≤ op.level then settle level (op.apply left e) stack
    else (e, .binary op left :: stack)
  | stack => (e, stack)

namespace Reading

/-- A binary operator behind an operand. -/
def operate (op : BinaryOp) (e : Expr α) (stack : List (Pending α)) : Reading α :=
  let (left, stack) := settle op.level e stack
  .operand (.binary op left :: stack)

/-- A closing parenthesis behind an operand. -/
def close? (e : Expr α) (stack : List (Pending α)) : Option (Reading α) :=
  match settle 0 e stack with
  | (e, .group :: stack) => some (.operator e stack)
  | (e, .call f args :: stack) => some (.operator (.call f (args ++ [e])) stack)
  | _ => none

/-- A comma behind an operand. -/
def next? (e : Expr α) (stack : List (Pending α)) : Option (Reading α) :=
  match settle 0 e stack with
  | (e, .call f args :: stack) => some (.operand (.call f (args ++ [e]) :: stack))
  | _ => none

/-- Read one more token. -/
def step? : Reading α → Token α → Option (Reading α)
  | state, .space => some state
  | .operand stack, .var v => some (.operator (.var v) stack)
  | .operand stack, .number places value => some (.operator (.number places value) stack)
  | .operand stack, .flag value => some (.operator (.flag value) stack)
  | .operand stack, .minus => some (.operand (.negate :: stack))
  | .operand stack, .opening => some (.operand (.group :: stack))
  | .operand stack, .call f => some (.operand (.call f [] :: stack))
  | .operand (.call f [] :: stack), .closing => some (.operator (.call f []) stack)
  | .operator e stack, .coordinate axis => some (.operator (.coordinate axis e) stack)
  | .operator e stack, .plus => some (operate .plus e stack)
  | .operator e stack, .minus => some (operate .minus e stack)
  | .operator e stack, .times => some (operate .times e stack)
  | .operator e stack, .closing => close? e stack
  | .operator e stack, .comma => next? e stack
  | _, _ => none

/-- The expression of a text that was read to its end. -/
def finish? : Reading α → Option (Expr α)
  | .operator e stack =>
    match settle 0 e stack with
    | (e, []) => some e
    | _ => none
  | .operand _ => none

end Reading

/-- The expression that tokens stand for. -/
def Expr.read? (ts : List (Token α)) : Option (Expr α) :=
  (ts.foldlM Reading.step? (.operand [])).bind Reading.finish?

/-! ### Texts -/

section

variable [FixedText α]

lemma texts_append (ts us : List (Token α)) :
    Token.texts (ts ++ us) = Token.texts ts ++ Token.texts us := by
  induction ts with
  | nil => simp [Token.texts]
  | cons t rest ih => simp [Token.texts, ih, String.append_assoc]

lemma texts_enclose (needed : Bool) (ts : List (Token α)) :
    Token.texts (enclose needed ts) = parenthesize needed (Token.texts ts) := by
  cases needed <;>
    simp [enclose, parenthesize, Token.texts, Token.text, texts_append, String.append_assoc]

lemma texts_separate (tss : List (List (Token α))) :
    Token.texts (separate tss) = commas (tss.map Token.texts) := by
  induction tss with
  | nil => rfl
  | cons ts rest ih =>
    cases rest with
    | nil => rfl
    | cons us rest =>
      rw [separate, texts_append, Token.texts, Token.texts, ih]
      simp only [List.map_cons, commas, Token.text, String.append_assoc]
      rfl

lemma texts_between (op : BinaryOp) (ts us : List (Token α)) :
    Token.texts (op.between ts us) =
      Token.texts ts ++ (" " ++ (op.token : Token α).text ++ " ") ++ Token.texts us := by
  simp [BinaryOp.between, texts_append, Token.texts, Token.text, String.append_assoc]

mutual

/-- The tokens of an expression make up its text. -/
lemma texts_tokens (level : Nat) (e : Expr α) : Token.texts (e.tokens level) = e.render level := by
  match e with
  | .var v => simp [Expr.tokens, Expr.render, Token.texts, Token.text]
  | .number places value => simp [Expr.tokens, Expr.render, Token.texts, Token.text]
  | .flag value => cases value <;> simp [Expr.tokens, Expr.render, Token.texts, Token.text]
  | .coordinate axis e =>
    simp only [Expr.tokens, Expr.render, texts_append, texts_tokens 3 e]
    simp [Token.texts, Token.text, String.append_assoc]
  | .neg e =>
    simp only [Expr.tokens, Expr.render, texts_enclose, Token.texts, texts_tokens 3 e, Token.text]
  | .add a b =>
    simp only [Expr.tokens, Expr.render, texts_enclose, texts_between, texts_tokens 0 a,
      texts_tokens 1 b]
    rfl
  | .sub a b =>
    simp only [Expr.tokens, Expr.render, texts_enclose, texts_between, texts_tokens 0 a,
      texts_tokens 1 b]
    rfl
  | .mul a b =>
    simp only [Expr.tokens, Expr.render, texts_enclose, texts_between, texts_tokens 1 a,
      texts_tokens 2 b]
    rfl
  | .call f args =>
    simp only [Expr.tokens, Expr.render, List.cons_append, Token.texts, texts_append,
      texts_separate, texts_tokensList args]
    simp [Token.text, String.append_assoc]

lemma texts_tokensList (es : List (Expr α)) :
    (Expr.tokensList es).map Token.texts = Expr.renderList es := by
  match es with
  | [] => rfl
  | e :: rest =>
    simp only [Expr.tokensList, Expr.renderList, List.map_cons, texts_tokens 0 e,
      texts_tokensList rest]

end

end

/-! ### Reading what was written -/

/-- No operator from a level on groups an operand with what waits to its left. -/
def Stops (level : Nat) (stack : List (Pending α)) : Prop :=
  ∀ l, level ≤ l → l ≤ 1 → ∀ e, settle l e stack = (e, stack)

/-- Tokens are read where an operand has to follow, and an operator up to a level then finds the
given operand. -/
def ReadsAs (level : Nat) (stack : List (Pending α)) (ts : List (Token α)) (e : Expr α) : Prop :=
  ∃ e' stack', ts.foldlM Reading.step? (.operand stack) = some (.operator e' stack') ∧
    ∀ l ≤ level, settle l e' stack' = settle l e stack

/-- Tokens are read as an operand on its own. -/
def ReadsAlone (ts : List (Token α)) (e : Expr α) : Prop :=
  ∀ stack, ts.foldlM Reading.step? (.operand stack) = some (.operator e stack)

@[simp] lemma Reading.step?_space (state : Reading α) : state.step? .space = some state := rfl

lemma stops_group (stack : List (Pending α)) : Stops 0 (.group :: stack) := fun _ _ _ _ => rfl

lemma stops_call (f : Function) (args : List (Expr α)) (stack : List (Pending α)) :
    Stops 0 (.call f args :: stack) := fun _ _ _ _ => rfl

lemma Stops.mono {l m : Nat} {stack : List (Pending α)} (h : Stops l stack) (hlm : l ≤ m) :
    Stops m stack := fun k hk => h k (hlm.trans hk)

lemma stops_binary (op : BinaryOp) (left : Expr α) (stack : List (Pending α)) :
    Stops (op.level + 1) (.binary op left :: stack) := by
  intro l hl _ e
  rw [settle, if_neg (by omega)]

lemma ReadsAlone.readsAs {ts : List (Token α)} {e : Expr α} (h : ReadsAlone ts e) (level : Nat)
    (stack : List (Pending α)) : ReadsAs level stack ts e :=
  ⟨e, stack, h stack, fun _ _ => rfl⟩

/-- Parentheses set an operand apart. -/
lemma readsAlone_enclose {ts : List (Token α)} {e : Expr α}
    (h : ∀ stack, Stops 0 stack → ReadsAs 0 stack ts e) : ReadsAlone (enclose true ts) e := by
  intro stack
  obtain ⟨e', stack', hread, hsettle⟩ := h (.group :: stack) (stops_group stack)
  have hclose : Reading.close? e' stack' = some (.operator e stack) := by
    simp [Reading.close?, hsettle 0 le_rfl, settle]
  simp [enclose, Reading.step?, List.foldlM_append, hread, hclose]

/-- Parentheses are written where they are needed. -/
lemma readsAs_enclose {ts : List (Token α)} {e : Expr α} {own level : Nat}
    (h : ∀ l ≤ own, ∀ stack, Stops l stack → ReadsAs l stack ts e) (stack : List (Pending α))
    (hstack : Stops level stack) : ReadsAs level stack (enclose (own < level) ts) e := by
  by_cases hneeded : own < level
  · rw [decide_eq_true hneeded]
    exact (readsAlone_enclose (h 0 (Nat.zero_le _))).readsAs level stack
  · rw [decide_eq_false hneeded]
    exact h level (not_lt.mp hneeded) stack hstack

/-- The sign of an operand that stands on its own. -/
lemma readsAs_neg {ts : List (Token α)} {e : Expr α} (h : ReadsAlone ts e) (level : Nat)
    (stack : List (Pending α)) : ReadsAs level stack (.minus :: ts) (.neg e) := by
  refine ⟨e, .negate :: stack, ?_, fun l _ => rfl⟩
  simp [Reading.step?, h (.negate :: stack)]

/-- The operator between two operands groups to the left, and leaves what binds less tightly. -/
lemma readsAs_between {op : BinaryOp} {ts us : List (Token α)} {a b : Expr α} {level : Nat}
    (hlevel : level ≤ op.level) (hop : op.level ≤ 1) {stack : List (Pending α)}
    (hstack : Stops level stack) (ha : ReadsAs op.level stack ts a)
    (hb : ReadsAs (op.level + 1) (.binary op a :: stack) us b) :
    ReadsAs level stack (op.between ts us) (op.apply a b) := by
  obtain ⟨a', stack', hreadA, hsettleA⟩ := ha
  obtain ⟨b', stack'', hreadB, hsettleB⟩ := hb
  have hop : Reading.step? (.operator a' stack') op.token =
      some (.operand (.binary op a :: stack)) := by
    have hsettle : settle op.level a' stack' = (a, stack) := by
      rw [hsettleA _ le_rfl, hstack _ hlevel hop]
    cases op <;> simp only [BinaryOp.token, Reading.step?, Reading.operate, hsettle]
  refine ⟨b', stack'', ?_, fun l hl => ?_⟩
  · simp [BinaryOp.between, List.foldlM_append, hreadA, hop, hreadB]
  · rw [hsettleB l (by omega), settle, if_pos (hl.trans hlevel)]

/-- The arguments of a call are read one after the other. -/
lemma foldlM_separate {f : Function} {es : List (Expr α)} (hes : es ≠ [])
    (h : ∀ e ∈ es, ∀ stack, Stops 0 stack → ReadsAs 0 stack (e.tokens 0) e)
    (args : List (Expr α)) (stack : List (Pending α)) :
    (separate (Expr.tokensList es) ++ [Token.closing]).foldlM Reading.step?
        (.operand (.call f args :: stack)) = some (.operator (.call f (args ++ es)) stack) := by
  induction es generalizing args with
  | nil => exact absurd rfl hes
  | cons e rest ih =>
    obtain ⟨e', stack', hread, hsettle⟩ :=
      h e List.mem_cons_self (.call f args :: stack) (stops_call f args stack)
    have hsettle : settle 0 e' stack' = (e, .call f args :: stack) := by
      rw [hsettle 0 le_rfl, stops_call f args stack 0 le_rfl zero_le_one]
    cases rest with
    | nil =>
      have hclose : Reading.step? (.operator e' stack') Token.closing =
          some (.operator (.call f (args ++ [e])) stack) := by
        simp [Reading.step?, Reading.close?, hsettle]
      simp [Expr.tokensList, separate, List.foldlM_append, hread, hclose]
    | cons e₂ rest =>
      have hnext : Reading.step? (.operator e' stack') Token.comma =
          some (.operand (.call f (args ++ [e]) :: stack)) := by
        simp [Reading.step?, Reading.next?, hsettle]
      have hrest := ih (List.cons_ne_nil _ _) (fun e he => h e (List.mem_cons_of_mem _ he))
        (args ++ [e])
      rw [List.append_assoc, List.singleton_append, Expr.tokensList] at hrest
      rw [Expr.tokensList, Expr.tokensList, separate, List.append_assoc, List.foldlM_append, hread]
      simpa [hnext] using hrest

/-! ### Expressions -/

/-- The tokens of a binary operation, from those of its operands. -/
lemma readsAs_binary (op : BinaryOp) {a b : Expr α}
    (ha : ∀ level stack, Stops level stack → ReadsAs level stack (a.tokens level) a)
    (hb : ∀ level stack, Stops level stack → ReadsAs level stack (b.tokens level) b)
    (l : Nat) (hl : l ≤ op.level) (stack : List (Pending α)) (hstack : Stops l stack) :
    ReadsAs l stack (op.between (a.tokens op.level) (b.tokens (op.level + 1))) (op.apply a b) := by
  have hop : op.level ≤ 1 := by cases op <;> decide
  exact readsAs_between hl hop hstack (ha _ stack (hstack.mono hl))
    (hb _ _ (stops_binary op a stack))

/-- Tokens that are the same at every level are those of an operand on its own. -/
lemma readsAs_of_alone {e : Expr α} (h : ∀ level, ReadsAlone (e.tokens level) e) :
    (∀ level stack, Stops level stack → ReadsAs level stack (e.tokens level) e) ∧
      ReadsAlone (e.tokens 3) e :=
  ⟨fun level stack _ => (h level).readsAs level stack, h 3⟩

/-- The tokens of an operation are those between parentheses where its level is too low. -/
lemma readsAs_of_enclose {e : Expr α} (own : Nat) {ts : List (Token α)} (hown : own < 3)
    (htokens : ∀ level, e.tokens level = enclose (own < level) ts)
    (h : ∀ l ≤ own, ∀ stack, Stops l stack → ReadsAs l stack ts e) :
    (∀ level stack, Stops level stack → ReadsAs level stack (e.tokens level) e) ∧
      ReadsAlone (e.tokens 3) e := by
  constructor
  · intro level stack hstack
    rw [htokens]
    exact readsAs_enclose h stack hstack
  · rw [htokens, decide_eq_true hown]
    exact readsAlone_enclose (h 0 (Nat.zero_le _))

/-- Read at any level, the tokens of an expression give the expression; those of the highest level
stand on their own. -/
lemma readsAs_tokens (e : Expr α) :
    (∀ level stack, Stops level stack → ReadsAs level stack (e.tokens level) e) ∧
      ReadsAlone (e.tokens 3) e := by
  match e with
  | .var v => exact readsAs_of_alone fun level stack => by simp [Expr.tokens, Reading.step?]
  | .number places value =>
    exact readsAs_of_alone fun level stack => by simp [Expr.tokens, Reading.step?]
  | .flag value => exact readsAs_of_alone fun level stack => by simp [Expr.tokens, Reading.step?]
  | .coordinate axis e =>
    refine readsAs_of_alone fun level stack => ?_
    simp [Expr.tokens, List.foldlM_append, (readsAs_tokens e).2 stack, Reading.step?]
  | .neg e =>
    refine readsAs_of_enclose 2 (by decide) (fun level => by rw [Expr.tokens]) ?_
    intro l _ stack _
    exact readsAs_neg (readsAs_tokens e).2 l stack
  | .add a b =>
    exact readsAs_of_enclose 0 (by decide) (fun level => by rw [Expr.tokens]; rfl)
      (readsAs_binary .plus (readsAs_tokens a).1 (readsAs_tokens b).1)
  | .sub a b =>
    exact readsAs_of_enclose 0 (by decide) (fun level => by rw [Expr.tokens]; rfl)
      (readsAs_binary .minus (readsAs_tokens a).1 (readsAs_tokens b).1)
  | .mul a b =>
    exact readsAs_of_enclose 1 (by decide) (fun level => by rw [Expr.tokens]; rfl)
      (readsAs_binary .times (readsAs_tokens a).1 (readsAs_tokens b).1)
  | .call f args =>
    have ih : ∀ e ∈ args, ∀ stack, Stops 0 stack → ReadsAs 0 stack (e.tokens 0) e :=
      fun e _ => (readsAs_tokens e).1 0
    refine readsAs_of_alone fun level stack => ?_
    rw [Expr.tokens, List.cons_append, List.foldlM_cons]
    cases args with
    | nil => simp [Expr.tokensList, separate, Reading.step?]
    | cons e rest =>
      simpa [Reading.step?] using foldlM_separate (f := f) (List.cons_ne_nil e rest) ih [] stack

/-- An expression is read back from its tokens. -/
lemma read?_tokens (e : Expr α) : Expr.read? (e.tokens 0) = some e := by
  obtain ⟨e', stack, hread, hsettle⟩ :=
    (readsAs_tokens e).1 0 [] fun _ _ _ _ => rfl
  simp [Expr.read?, hread, Reading.finish?, hsettle 0 le_rfl, settle]

end DistanceField.Shader
