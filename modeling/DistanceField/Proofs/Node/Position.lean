import Mathlib
import DistanceField.Proofs.Node.Outline

/-!
# Positions

A position lists the children to go down to from the root, by their places among their siblings.
Identifiers may be shared, but at each position there is one node. Positions in the order of lists
are nodes in preorder: a node comes before all that is below it, and that before its younger
siblings.

A search gives the node at the first position that fits, and a replacement changes the tree at that
position. What it does elsewhere is said on positions alone: those off the way are not touched, and
a node on the way has one child set to another one.
-/

namespace DistanceField.Node

variable {α : Type}

/-! ### Nodes at positions -/

/-- The node at a position. -/
def nodeAt? (n : Node α) : List Nat → Option (Node α)
  | [] => some n
  | i :: pos => n.children[i]?.bind (nodeAt? · pos)

lemma nodeAt?_cons (n : Node α) (i : Nat) (pos : List Nat) :
    n.nodeAt? (i :: pos) = n.children[i]?.bind (nodeAt? · pos) := rfl

lemma mem_preorder_of_nodeAt? {tree n : Node α} {pos : List Nat} (h : tree.nodeAt? pos = some n) :
    n ∈ tree.preorder := by
  induction pos generalizing tree with
  | nil => exact Option.some.inj h ▸ tree.self_mem_preorder
  | cons i pos ih =>
    obtain ⟨c, hc, hn⟩ := Option.bind_eq_some_iff.mp h
    exact mem_preorder_of_mem_children (List.mem_of_getElem? hc) (ih hn)

/-- The position of the hole at the end of a way. -/
def position (way : List (Level α)) : List Nat := way.map (·.before.length)

lemma position_cons (level : Level α) (way : List (Level α)) :
    position (level :: way) = level.before.length :: position way := rfl

section

variable (level : Level α) (n : Node α)

lemma children_fill_getElem? :
    (level.fill n).children[level.before.length]? = some n := by
  simp [Level.fill]

lemma children_fill_getElem?_of_lt {i : Nat} (hi : i < level.before.length) :
    (level.fill n).children[i]? = level.before[i]? := by
  simp [Level.fill, List.getElem?_append_left hi]

/-- The children beside the way do not depend on what the way leads to. -/
lemma children_fill_getElem?_of_ne (m : Node α) {i : Nat} (hi : i ≠ level.before.length) :
    (level.fill n).children[i]? = (level.fill m).children[i]? := by
  rcases Nat.lt_or_gt_of_ne hi with hlt | hgt
  · rw [children_fill_getElem?_of_lt level n hlt, children_fill_getElem?_of_lt level m hlt]
  · obtain ⟨k, rfl⟩ := Nat.exists_eq_add_of_lt hgt
    simp [Level.fill, List.getElem?_append_right, Nat.add_assoc]

/-- What the way leads to is set as a child. -/
lemma fill_eq_set (m : Node α) :
    level.fill m = (level.fill n).mapChildren (·.set level.before.length m) := by
  simp [Level.fill, mapChildren]

lemma nodeAt?_fill (pos : List Nat) :
    (level.fill n).nodeAt? (level.before.length :: pos) = n.nodeAt? pos := by
  rw [nodeAt?_cons, children_fill_getElem?, Option.bind_some]

end

lemma nodeAt?_plug_append (way : List (Level α)) (n : Node α) (pos : List Nat) :
    (plug way n).nodeAt? (position way ++ pos) = n.nodeAt? pos := by
  induction way with
  | nil => rfl
  | cons level way ih => rw [plug_cons, position_cons, List.cons_append, nodeAt?_fill, ih]

lemma nodeAt?_plug (way : List (Level α)) (n : Node α) :
    (plug way n).nodeAt? (position way) = some n := by
  have h := nodeAt?_plug_append way n []
  rwa [List.append_nil] at h

/-- What stands at an earlier position than a hole is passed before it. -/
lemma mem_passed_of_lt {way : List (Level α)} {n m : Node α} {pos : List Nat}
    (hlt : pos < position way) (hm : (plug way n).nodeAt? pos = some m) : m ∈ passed way n := by
  induction way generalizing pos with
  | nil => exact absurd hlt (List.not_lt_nil pos)
  | cons level way ih =>
    rw [passed, List.cons_append, List.mem_cons, List.mem_append]
    cases pos with
    | nil => exact .inl (Option.some.inj hm).symm
    | cons i pos =>
      right
      rw [position_cons, List.cons_lt_cons_iff] at hlt
      rcases hlt with hi | ⟨rfl, hpos⟩
      · left
        rw [plug_cons, nodeAt?_cons, children_fill_getElem?_of_lt level _ hi] at hm
        obtain ⟨c, hc, hm⟩ := Option.bind_eq_some_iff.mp hm
        exact List.mem_flatMap.mpr ⟨c, List.mem_of_getElem? hc, mem_preorder_of_nodeAt? hm⟩
      · right
        rw [plug_cons, nodeAt?_fill] at hm
        exact ih hpos hm

/-! ### The first position that fits -/

/-- A node that fits, at a position before which no node does. -/
structure FirstAt (tree : Node α) (p : Node α → Bool) (pos : List Nat) (n : Node α) : Prop where
  nodeAt?_eq : tree.nodeAt? pos = some n
  fits : p n = true
  first : ∀ q m, q < pos → tree.nodeAt? q = some m → p m = false

lemma FirstAt.unique {tree m n : Node α} {p : Node α → Bool} {q pos : List Nat}
    (hm : tree.FirstAt p q m) (hn : tree.FirstAt p pos n) : q = pos ∧ m = n := by
  have hpos : q = pos := by
    rcases lt_trichotomy q pos with hlt | heq | hlt
    · exact absurd hm.fits (Bool.eq_false_iff.mp (hn.first q m hlt hm.nodeAt?_eq))
    · exact heq
    · exact absurd hn.fits (Bool.eq_false_iff.mp (hm.first pos n hlt hn.nodeAt?_eq))
  subst hpos
  exact ⟨rfl, Option.some.inj (hm.nodeAt?_eq.symm.trans hn.nodeAt?_eq)⟩

lemma firstAt_plug {way : List (Level α)} {n : Node α} {p : Node α → Bool} (hn : p n = true)
    (hpassed : ∀ m ∈ passed way n, p m = false) : (plug way n).FirstAt p (position way) n :=
  ⟨nodeAt?_plug way n, hn, fun _ m hlt hm => hpassed m (mem_passed_of_lt hlt hm)⟩

/-- A search gives the node at the first position that fits. -/
lemma findFirst?_eq_some_iff {tree n : Node α} {p : Node α → Bool} :
    tree.findFirst? p = some n ↔ ∃ pos, tree.FirstAt p pos n := by
  have hfirst : ∀ m, tree.findFirst? p = some m → ∃ pos, tree.FirstAt p pos m := by
    intro m hm
    obtain ⟨-, hfits⟩ := mem_preorder_of_findFirst? hm
    obtain ⟨way, rfl, hpassed⟩ := exists_way_of_findFirst? hm
    exact ⟨position way, firstAt_plug hfits hpassed⟩
  refine ⟨hfirst n, fun ⟨pos, hpos⟩ => ?_⟩
  cases hfind : tree.findFirst? p with
  | none =>
    have hnone := findFirst?_eq_none.mp hfind n (mem_preorder_of_nodeAt? hpos.nodeAt?_eq)
    rw [hpos.fits] at hnone
    cases hnone
  | some m =>
    obtain ⟨q, hq⟩ := hfirst m hfind
    rw [(hq.unique hpos).2]

/-! ### Replacing at a position -/

/-- A tree with another node at a position: below it there is what the other node has, off the way
to it nothing is changed, and each node on the way has one child set anew, in range. -/
structure ReplacedAt (tree : Node α) (pos : List Nat) (m new : Node α) : Prop where
  below : ∀ q, new.nodeAt? (pos ++ q) = m.nodeAt? q
  off_way : ∀ q, ¬ q <+: pos → ¬ pos <+: q → new.nodeAt? q = tree.nodeAt? q
  on_way : ∀ q i, q ++ [i] <+: pos → ∃ n c, tree.nodeAt? q = some n ∧ i < n.children.length ∧
    new.nodeAt? q = some (n.mapChildren (·.set i c))

lemma nodeAt?_plug_beside {way : List (Level α)} (m n : Node α) {pos : List Nat}
    (habove : ¬ pos <+: position way) (hbelow : ¬ position way <+: pos) :
    (plug way m).nodeAt? pos = (plug way n).nodeAt? pos := by
  induction way generalizing pos with
  | nil => exact absurd List.nil_prefix hbelow
  | cons level way ih =>
    cases pos with
    | nil => exact absurd List.nil_prefix habove
    | cons i pos =>
      rw [position_cons, List.cons_prefix_cons, not_and] at habove hbelow
      by_cases hi : i = level.before.length
      · subst hi
        rw [plug_cons, plug_cons, nodeAt?_fill, nodeAt?_fill, ih (habove rfl) (hbelow rfl)]
      · rw [plug_cons, plug_cons, nodeAt?_cons, nodeAt?_cons,
          children_fill_getElem?_of_ne level _ (plug way n) hi]

lemma nodeAt?_plug_above {way : List (Level α)} (m n : Node α) {pos : List Nat} {i : Nat}
    (h : pos ++ [i] <+: position way) :
    ∃ k c, (plug way n).nodeAt? pos = some k ∧ i < k.children.length ∧
      (plug way m).nodeAt? pos = some (k.mapChildren (·.set i c)) := by
  induction way generalizing pos with
  | nil => exact absurd (List.prefix_nil.mp h) (List.append_ne_nil_of_right_ne_nil _ (by simp))
  | cons level way ih =>
    cases pos with
    | nil =>
      obtain ⟨rfl, -⟩ := List.cons_prefix_cons.mp h
      refine ⟨level.fill (plug way n), plug way m, rfl, by simp [Level.fill], ?_⟩
      rw [← fill_eq_set]
      rfl
    | cons j pos =>
      obtain ⟨rfl, hpos⟩ := List.cons_prefix_cons.mp h
      rw [plug_cons, plug_cons, nodeAt?_fill, nodeAt?_fill]
      exact ih hpos

lemma replacedAt_plug (way : List (Level α)) (m n : Node α) :
    (plug way n).ReplacedAt (position way) m (plug way m) where
  below := nodeAt?_plug_append way m
  off_way _ habove hbelow := nodeAt?_plug_beside m n habove hbelow
  on_way _ _ h := nodeAt?_plug_above m n h

/-- A replacement fails only where nothing fits. -/
lemma replaceFirst?_eq_none_iff {tree : Node α} {p : Node α → Bool} {f : Node α → Node α} :
    tree.replaceFirst? p f = none ↔ ∀ n ∈ tree.preorder, p n = false := by
  rw [← findFirst?_eq_none]
  refine ⟨fun h => ?_, replaceFirst?_eq_none_of⟩
  cases hfind : tree.findFirst? p with
  | none => rfl
  | some n =>
    obtain ⟨way, -, hreplace⟩ := exists_plug_of_findFirst? hfind
    rw [hreplace f] at h
    cases h

/-- A replacement is made at the first position that fits. -/
lemma exists_replacedAt_of_replaceFirst? {tree new : Node α} {p : Node α → Bool}
    {f : Node α → Node α} (h : tree.replaceFirst? p f = some new) :
    ∃ pos n, tree.FirstAt p pos n ∧ tree.ReplacedAt pos (f n) new := by
  obtain ⟨_, n, hfind, -, -⟩ := exists_plug_of_replaceFirst? h
  obtain ⟨-, hn⟩ := mem_preorder_of_findFirst? hfind
  obtain ⟨way, rfl, hpassed⟩ := exists_way_of_findFirst? hfind
  rw [replaceFirst?_plug hn hpassed] at h
  obtain rfl := Option.some.inj h
  exact ⟨position way, n, firstAt_plug hn hpassed, replacedAt_plug way (f n) n⟩

end DistanceField.Node
