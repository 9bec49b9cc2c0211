import Mathlib
import DistanceField.Edit.Basic
import DistanceField.Proofs.Tree

/-!
# Trees with a hole

An edit changes one node and leaves the rest of the tree alone. The rest is a list of levels, from
the root down: at each level an operation and its children to either side of the way. Searching and
replacing are described by filling the same hole, with the node that is found and with what replaces
it. A search from the root meets the nodes that are `passed` before it reaches the hole.
-/

namespace DistanceField

variable {α : Type}

/-- An operation on the way down to a hole, without the child that the way goes through. -/
structure Level (α : Type) where
  info : Info
  op : Operator α
  before : List (Node α)
  after : List (Node α)

namespace Level

/-- The operation with the child that the way goes through. -/
def fill (level : Level α) (n : Node α) : Node α :=
  .operation level.info level.op (level.before ++ n :: level.after)

/-- The identifiers at a level, in some order. -/
def ids (level : Level α) : List String :=
  level.info.id :: (level.before ++ level.after).flatMap Node.ids

/-- Unfold the operation at a level. -/
def unfold (level : Level α) : Level α :=
  { level with info := { level.info with collapsed := false } }

end Level

namespace Node

/-- Put a node into the hole at the end of the way. -/
def plug (way : List (Level α)) (n : Node α) : Node α := way.foldr Level.fill n

lemma plug_cons (level : Level α) (way : List (Level α)) (n : Node α) :
    plug (level :: way) n = level.fill (plug way n) := rfl

lemma ids_fill_perm (level : Level α) (n : Node α) :
    (level.fill n).ids.Perm (level.ids ++ n.ids) := by
  rw [ids_eq, Level.ids, Level.fill, id_operation, children_operation, List.flatMap_append,
    List.flatMap_cons, List.flatMap_append, List.cons_append, List.append_assoc]
  refine List.Perm.cons _ ?_
  exact List.Perm.append_left _ List.perm_append_comm

lemma ids_plug_perm (way : List (Level α)) (n : Node α) :
    (plug way n).ids.Perm (way.flatMap Level.ids ++ n.ids) := by
  induction way with
  | nil => exact List.Perm.refl _
  | cons level way ih =>
    rw [plug_cons, List.flatMap_cons, List.append_assoc]
    exact (ids_fill_perm level _).trans (List.Perm.append_left _ ih)

lemma mem_preorder_fill {level : Level α} {m n : Node α} (h : m ∈ n.preorder) :
    m ∈ (level.fill n).preorder :=
  mem_preorder_of_mem_children (List.mem_append_right _ List.mem_cons_self) h

lemma mem_preorder_plug {way : List (Level α)} {m n : Node α} (h : m ∈ n.preorder) :
    m ∈ (plug way n).preorder := by
  induction way with
  | nil => exact h
  | cons level way ih => exact mem_preorder_fill ih

lemma exists_plug_of_mem {tree n : Node α} (h : n ∈ tree.preorder) : ∃ way, tree = plug way n := by
  induction tree with
  | primitive info body =>
    obtain rfl : n = .primitive info body := List.mem_singleton.mp h
    exact ⟨[], rfl⟩
  | operation info op children ih =>
    rw [preorder_eq, List.mem_cons, List.mem_flatMap] at h
    obtain rfl | ⟨c, hc, hn⟩ := h
    · exact ⟨[], rfl⟩
    · obtain ⟨way, rfl⟩ := ih c hc hn
      obtain ⟨before, after, rfl⟩ := List.append_of_mem hc
      exact ⟨⟨info, op, before, after⟩ :: way, rfl⟩

/-! ### What stands before and after a hole -/

/-- The nodes before a hole in preorder: those on the way, each with the trees to the left of it. -/
def passed : List (Level α) → Node α → List (Node α)
  | [], _ => []
  | level :: way, n => plug (level :: way) n :: level.before.flatMap preorder ++ passed way n

/-- The nodes after a hole in preorder: the trees to the right of the way, the innermost first. -/
def following : List (Level α) → List (Node α)
  | [] => []
  | level :: way => following way ++ level.after.flatMap preorder

lemma preorder_plug (way : List (Level α)) (n : Node α) :
    (plug way n).preorder = passed way n ++ n.preorder ++ following way := by
  induction way with
  | nil => rw [passed, following, List.nil_append, List.append_nil]; rfl
  | cons level way ih =>
    rw [preorder_eq, passed, following, plug_cons, Level.fill, children_operation,
      List.flatMap_append, List.flatMap_cons, ih]
    simp only [List.cons_append, List.append_assoc]

/-! ### Searching -/

lemma findFirstIn?_eq (p : Node α → Bool) (ns : List (Node α)) :
    findFirstIn? p ns = ns.findSome? (findFirst? p) := by
  induction ns with
  | nil => rfl
  | cons n rest ih =>
    rw [findFirstIn?, List.findSome?_cons, ih]
    split <;> rename_i h <;> rw [h]

lemma findFirstIn?_eq_find? {p : Node α → Bool} {ns : List (Node α)}
    (h : ∀ n ∈ ns, n.findFirst? p = n.preorder.find? p) :
    findFirstIn? p ns = (ns.flatMap preorder).find? p := by
  induction ns with
  | nil => rfl
  | cons n rest ih =>
    have hrest := ih fun m hm => h m (List.mem_cons_of_mem n hm)
    rw [findFirstIn?, List.flatMap_cons, List.find?_append, h n List.mem_cons_self, hrest]
    cases n.preorder.find? p <;> rfl

/-- A search gives the first node in preorder that fits. -/
lemma findFirst?_eq (p : Node α → Bool) (n : Node α) : n.findFirst? p = n.preorder.find? p := by
  induction n with
  | primitive info body => rw [findFirst?, preorder, List.find?_singleton]
  | operation info op children ih =>
    rw [findFirst?, preorder_eq, List.find?_cons, findFirstIn?_eq_find? ih]
    split_ifs with h
    · rw [h]
    · rw [Bool.eq_false_iff.mpr h]
      rfl

lemma mem_preorder_of_findFirst? {p : Node α → Bool} {tree n : Node α}
    (h : tree.findFirst? p = some n) : n ∈ tree.preorder ∧ p n = true := by
  rw [findFirst?_eq] at h
  exact ⟨List.mem_of_find?_eq_some h, List.find?_some h⟩

lemma findFirst?_eq_none {p : Node α → Bool} {tree : Node α} :
    tree.findFirst? p = none ↔ ∀ n ∈ tree.preorder, p n = false := by
  rw [findFirst?_eq, List.find?_eq_none]
  simp only [Bool.not_eq_true]

/-! ### Replacing -/

lemma replaceFirstIn?_eq_none_of {p : Node α → Bool} {f : Node α → Node α} {ns : List (Node α)}
    (h : ∀ n ∈ ns, n.replaceFirst? p f = none) : replaceFirstIn? p f ns = none := by
  induction ns with
  | nil => rfl
  | cons n rest ih =>
    have hrest := ih fun m hm => h m (List.mem_cons_of_mem n hm)
    rw [replaceFirstIn?, h n List.mem_cons_self, hrest]
    rfl

/-- Nothing is replaced where nothing is found. -/
lemma replaceFirst?_eq_none_of {p : Node α → Bool} {f : Node α → Node α} {tree : Node α}
    (h : tree.findFirst? p = none) : tree.replaceFirst? p f = none := by
  induction tree with
  | primitive info body =>
    rw [findFirst?] at h
    rw [replaceFirst?]
    split_ifs at h ⊢
    rfl
  | operation info op children ih =>
    rw [findFirst?, findFirstIn?_eq] at h
    rw [replaceFirst?]
    split_ifs at h ⊢
    rw [replaceFirstIn?_eq_none_of fun c hc => ih c hc (List.findSome?_eq_none_iff.mp h c hc)]
    rfl

lemma replaceFirstIn?_append {p : Node α → Bool} {f : Node α → Node α} {before : List (Node α)}
    {c new : Node α} (after : List (Node α)) (hbefore : ∀ b ∈ before, b.findFirst? p = none)
    (hc : c.replaceFirst? p f = some new) :
    replaceFirstIn? p f (before ++ c :: after) = some (before ++ new :: after) := by
  induction before with
  | nil => rw [List.nil_append, replaceFirstIn?, hc]; rfl
  | cons b rest ih =>
    have hb := replaceFirst?_eq_none_of (f := f) (hbefore b List.mem_cons_self)
    have hrest := ih fun m hm => hbefore m (List.mem_cons_of_mem b hm)
    rw [List.cons_append, replaceFirstIn?, hb, hrest]
    rfl

/-- What a search finds stands in a hole that it passes no other fit on the way to. -/
lemma exists_way_of_findFirst? {p : Node α → Bool} {tree n : Node α}
    (h : tree.findFirst? p = some n) :
    ∃ way, tree = plug way n ∧ ∀ m ∈ passed way n, p m = false := by
  induction tree with
  | primitive info body =>
    rw [findFirst?] at h
    split_ifs at h
    obtain rfl := Option.some.inj h
    exact ⟨[], rfl, fun _ hm => absurd hm List.not_mem_nil⟩
  | operation info op children ih =>
    rw [findFirst?, findFirstIn?_eq] at h
    split_ifs at h with hp
    · obtain rfl := Option.some.inj h
      exact ⟨[], rfl, fun _ hm => absurd hm List.not_mem_nil⟩
    · -- nothing fits in the trees before the one that the node is found in
      obtain ⟨before, c, after, rfl, hc, hbefore⟩ := List.findSome?_eq_some_iff.mp h
      obtain ⟨way, rfl, hpassed⟩ := ih c (List.mem_append_right _ List.mem_cons_self) hc
      refine ⟨⟨info, op, before, after⟩ :: way, rfl, fun m hm => ?_⟩
      rw [passed, List.cons_append, List.mem_cons, List.mem_append, List.mem_flatMap] at hm
      obtain rfl | ⟨b, hb, hm⟩ | hm := hm
      · exact Bool.eq_false_iff.mpr hp
      · exact findFirst?_eq_none.mp (hbefore b hb) m hm
      · exact hpassed m hm

/-- What fills a hole is replaced if it fits and nothing before the hole does. -/
lemma replaceFirst?_plug {p : Node α → Bool} {f : Node α → Node α} {way : List (Level α)}
    {n : Node α} (hn : p n = true) (hpassed : ∀ m ∈ passed way n, p m = false) :
    (plug way n).replaceFirst? p f = some (plug way (f n)) := by
  induction way with
  | nil =>
    cases n with
    | primitive info body => exact if_pos hn
    | operation info op children => exact if_pos hn
  | cons level way ih =>
    rw [passed, List.cons_append, List.forall_mem_cons, List.forall_mem_append] at hpassed
    obtain ⟨hroot, hbefore, hway⟩ := hpassed
    have hnone : ∀ b ∈ level.before, b.findFirst? p = none := fun b hb =>
      findFirst?_eq_none.mpr fun m hm => hbefore m (List.mem_flatMap.mpr ⟨b, hb, hm⟩)
    rw [plug_cons, Level.fill] at hroot ⊢
    rw [replaceFirst?, if_neg (Bool.eq_false_iff.mp hroot),
      replaceFirstIn?_append level.after hnone (ih hway)]
    rfl

/-- What a search finds is what a replacement replaces: both fill the same hole. -/
lemma exists_plug_of_findFirst? {p : Node α → Bool} {tree n : Node α}
    (h : tree.findFirst? p = some n) :
    ∃ way, tree = plug way n ∧ ∀ f, tree.replaceFirst? p f = some (plug way (f n)) := by
  obtain ⟨way, rfl, hpassed⟩ := exists_way_of_findFirst? h
  exact ⟨way, rfl, fun f => replaceFirst?_plug (mem_preorder_of_findFirst? h).2 hpassed⟩

/-- A replacement that succeeds fills the hole of the node that a search finds. -/
lemma exists_plug_of_replaceFirst? {p : Node α → Bool} {f : Node α → Node α} {tree new : Node α}
    (h : tree.replaceFirst? p f = some new) :
    ∃ way n, tree.findFirst? p = some n ∧ tree = plug way n ∧ new = plug way (f n) := by
  cases hfind : tree.findFirst? p with
  | none =>
    rw [replaceFirst?_eq_none_of hfind] at h
    cases h
  | some n =>
    obtain ⟨way, hway, hreplace⟩ := exists_plug_of_findFirst? hfind
    refine ⟨way, n, rfl, hway, ?_⟩
    rw [hreplace f] at h
    exact (Option.some.inj h).symm

/-! ### Unfolding -/

lemma expandIn?_eq_some {id : String} {ns new : List (Node α)} (h : expandIn? id ns = some new) :
    ∃ before c after c', ns = before ++ c :: after ∧ new = before ++ c' :: after ∧
      c.expandTo? id = some c' := by
  induction ns generalizing new with
  | nil => cases h
  | cons n rest ih =>
    rw [expandIn?] at h
    split at h
    · rename_i n' hn
      obtain rfl := Option.some.inj h
      exact ⟨[], n, rest, n', rfl, rfl, hn⟩
    · obtain ⟨new, hnew, rfl⟩ := Option.map_eq_some_iff.mp h
      obtain ⟨before, c, after, c', rfl, rfl, hc⟩ := ih hnew
      exact ⟨n :: before, c, after, c', rfl, rfl, hc⟩

/-- Unfolding changes the levels on the way to a node. -/
lemma exists_plug_of_expandTo? {id : String} {tree new : Node α}
    (h : tree.expandTo? id = some new) :
    ∃ way n, tree = plug way n ∧ new = plug (way.map Level.unfold) n := by
  induction tree generalizing new with
  | primitive info body =>
    rw [expandTo?] at h
    split_ifs at h
    obtain rfl := Option.some.inj h
    exact ⟨[], _, rfl, rfl⟩
  | operation info op children ih =>
    rw [expandTo?] at h
    split_ifs at h
    · obtain rfl := Option.some.inj h
      exact ⟨[], _, rfl, rfl⟩
    · obtain ⟨new, hnew, rfl⟩ := Option.map_eq_some_iff.mp h
      obtain ⟨before, c, after, c', rfl, rfl, hc⟩ := expandIn?_eq_some hnew
      obtain ⟨way, n, hway, hway'⟩ := ih c (List.mem_append_right _ List.mem_cons_self) hc
      refine ⟨⟨info, op, before, after⟩ :: way, n, ?_, ?_⟩
      · rw [plug_cons, ← hway]
        rfl
      · rw [List.map_cons, plug_cons, ← hway']
        rfl

end Node

end DistanceField
