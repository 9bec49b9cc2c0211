import Mathlib
import DistanceField.Edit.Session
import DistanceField.Proofs.Edit.Exchange
import DistanceField.Proofs.Node.Position

/-!
# What is checked is what is edited

An edit looks at a node before it changes it: whether it takes one more child, or has the children
that are to be exchanged. The look and the change are two searches from the root. Both end at the
first position that fits, so the check holds of the node that is changed, even where other nodes
have the same identifier.

Two things follow. The places that an edit reads and writes among the children of a node are there,
and no edit that brings in a node gives a displacement a third child.
-/

namespace DistanceField

variable {α : Type}

namespace Node

/-! ### Places among children -/

/-- What is checked on the node that a search finds holds of the node that is replaced. -/
lemma exists_checked_of_replaceFirst? {tree new : Node α} {p check : Node α → Bool}
    {f : Node α → Node α}
    (h : (if (tree.findFirst? p).any check then tree.replaceFirst? p f else none) = some new) :
    ∃ pos n, tree.FirstAt p pos n ∧ check n = true ∧ tree.ReplacedAt pos (f n) new := by
  split_ifs at h with hany
  obtain ⟨m, hfind, hcheck⟩ := (Option.any_eq_true _ _).mp hany
  obtain ⟨q, hm⟩ := findFirst?_eq_some_iff.mp hfind
  obtain ⟨pos, n, hn, hreplaced⟩ := exists_replacedAt_of_replaceFirst? h
  rw [(hm.unique hn).2] at hcheck
  exact ⟨pos, n, hn, hcheck, hreplaced⟩

lemma insertBeside_eq_insertIdx {id : String} (node : Node α) (after : Bool) {ns : List (Node α)}
    {i : Nat} (h : ns.findIdx? (·.id == id) = some i) :
    insertBeside id node after ns = ns.insertIdx (if after then i + 1 else i) node := by
  induction ns generalizing i with
  | nil => cases h
  | cons n rest ih =>
    rw [List.findIdx?_cons] at h
    rw [insertBeside]
    by_cases hid : n.id = id
    · rw [if_pos (beq_iff_eq.mpr hid)] at h
      obtain rfl := Option.some.inj h
      rw [if_pos hid]
      cases after <;> rfl
    · rw [if_neg (by simpa using hid)] at h
      obtain ⟨k, hk, rfl⟩ := Option.map_eq_some_iff.mp h
      rw [if_neg hid, ih hk]
      cases after <;> rfl

lemma exists_childIndex?_of_hasChild {n : Node α} {id : String} (h : n.hasChild id = true) :
    ∃ i, n.childIndex? id = some i ∧ i < n.children.length := by
  obtain ⟨c, hc, hid⟩ := List.any_eq_true.mp h
  cases hindex : n.childIndex? id with
  | none =>
    have hnone := List.findIdx?_eq_none_iff.mp hindex c hc
    rw [hid] at hnone
    cases hnone
  | some i => exact ⟨i, rfl, (List.findIdx?_eq_some_iff_findIdx_eq.mp hindex).1⟩

/-- The places among the children of a node that edits of a tree read and write. Each of them
exists, and so does each step of the way down. -/
structure AccessesInRange (tree : Node α) : Prop where
  /-- An update has only the way down. -/
  update : ∀ id f new, tree.update? id f = some new →
    ∃ pos n, tree.FirstAt (·.id == id) pos n ∧ tree.ReplacedAt pos (f n) new
  /-- An exchange reads and writes two children. -/
  swap : ∀ id i j new, tree.swapChildren? id i j = some new →
    ∃ pos n a b, tree.FirstAt (·.id == id) pos n ∧
      n.children[i]? = some a ∧ n.children[j]? = some b ∧
      tree.ReplacedAt pos (n.mapChildren fun ns => (ns.set i b).set j a) new
  /-- An insertion beside a target makes room at a place up to the end of the list. -/
  beside : ∀ target node place new, place ≠ .inside → tree.insert? target node place = some new →
    ∃ pos parent i, tree.FirstAt (·.hasChild target) pos parent ∧ parent.acceptsChild = true ∧
      parent.childIndex? target = some i ∧ i < parent.children.length ∧
      tree.ReplacedAt pos
        (parent.mapChildren (·.insertIdx (if place = .after then i + 1 else i) node)) new
  /-- An insertion inside a target makes the list longer at its end. -/
  inside : ∀ target node new, tree.insert? target node .inside = some new →
    ∃ pos goal, tree.FirstAt (·.id == target) pos goal ∧ goal.acceptsChild = true ∧
      tree.ReplacedAt pos (goal.mapChildren (· ++ [node])) new

lemma swapChildren?_inRange {tree new : Node α} {id : String} {i j : Nat}
    (h : tree.swapChildren? id i j = some new) :
    ∃ pos n a b, tree.FirstAt (·.id == id) pos n ∧
      n.children[i]? = some a ∧ n.children[j]? = some b ∧
      tree.ReplacedAt pos (n.mapChildren fun ns => (ns.set i b).set j a) new := by
  obtain ⟨pos, n, hn, hcheck, hreplaced⟩ := exists_checked_of_replaceFirst? h
  simp only [Bool.and_eq_true, decide_eq_true_eq] at hcheck
  obtain ⟨⟨-, hi⟩, hj⟩ := hcheck
  refine ⟨pos, n, n.children[i], n.children[j], hn, List.getElem?_eq_getElem hi,
    List.getElem?_eq_getElem hj, ?_⟩
  cases n with
  | primitive info body => exact hreplaced
  | operation info op children =>
    have hexchange : exchange i j children = (children.set i children[j]).set j children[i] :=
      exchange_eq_of_lt hi hj
    rw [mapChildren, hexchange] at hreplaced
    exact hreplaced

lemma insertBeside?_inRange {tree node new : Node α} {target : String} {after : Bool}
    (h : tree.insertBeside? target node after = some new) :
    ∃ pos parent i, tree.FirstAt (·.hasChild target) pos parent ∧ parent.acceptsChild = true ∧
      parent.childIndex? target = some i ∧ i < parent.children.length ∧
      tree.ReplacedAt pos
        (parent.mapChildren (·.insertIdx (if after then i + 1 else i) node)) new := by
  obtain ⟨pos, parent, hparent, haccepts, hreplaced⟩ := exists_checked_of_replaceFirst? h
  obtain ⟨i, hindex, hi⟩ := exists_childIndex?_of_hasChild hparent.fits
  refine ⟨pos, parent, i, hparent, haccepts, hindex, hi, ?_⟩
  cases parent with
  | primitive info body => exact hreplaced
  | operation info op children =>
    have hinsert : insertBeside target node after children
        = children.insertIdx (if after then i + 1 else i) node :=
      insertBeside_eq_insertIdx node after hindex
    rw [mapChildren, hinsert] at hreplaced
    exact hreplaced

lemma accessesInRange (tree : Node α) : tree.AccessesInRange where
  update _ _ _ h := exists_replacedAt_of_replaceFirst? h
  swap _ _ _ _ h := swapChildren?_inRange h
  beside target node place new hplace h := by
    cases place with
    | before => exact insertBeside?_inRange h
    | after => exact insertBeside?_inRange h
    | inside => exact absurd rfl hplace
  inside _ _ _ h := exists_checked_of_replaceFirst? h

/-! ### Searching and replacing -/

/-- Searches and replacements end at one position, whatever identifiers are shared. -/
structure EditedWhereFound (tree : Node α) : Prop where
  replaceFirst?_eq_none_iff : ∀ p f,
    tree.replaceFirst? p f = none ↔ ∀ n ∈ tree.preorder, p n = false
  replaceFirst?_eq_some : ∀ p f new, tree.replaceFirst? p f = some new →
    ∃ pos n, tree.FirstAt p pos n ∧ tree.ReplacedAt pos (f n) new
  preorder_find?_eq_some_iff : ∀ p n,
    tree.preorder.find? p = some n ↔ ∃ pos, tree.FirstAt p pos n
  find?_eq_some_iff : ∀ id n, tree.find? id = some n ↔ ∃ pos, tree.FirstAt (·.id == id) pos n
  findParent?_eq_some_iff : ∀ id n,
    tree.findParent? id = some n ↔ ∃ pos, tree.FirstAt (·.hasChild id) pos n

lemma editedWhereFound (tree : Node α) : tree.EditedWhereFound where
  replaceFirst?_eq_none_iff _ _ := Node.replaceFirst?_eq_none_iff
  replaceFirst?_eq_some _ _ _ h := exists_replacedAt_of_replaceFirst? h
  preorder_find?_eq_some_iff p n := by
    rw [← findFirst?_eq]
    exact findFirst?_eq_some_iff
  find?_eq_some_iff _ _ := findFirst?_eq_some_iff
  findParent?_eq_some_iff _ _ := findFirst?_eq_some_iff

end Node

/-! ### The limit of displacements -/

namespace Edit

/-- The edits that bring a node into a scene. -/
inductive Brings (node : Node α) : Edit α → Prop
  | insert (target : String) (place : Place) : Brings node (.insert target node place)
  | add (selected : Option String) (unionId : String) : Brings node (.add selected node unionId)

variable [Scalar α]

lemma withinLimit_apply_runScene {scene : Option (Node α)} {node : Node α} {e : Edit α}
    {c : Change α} (h : ∀ t ∈ scene, t.WithinLimit) (hnode : node.WithinLimit) (he : e.Brings node)
    (hc : e.runScene scene = .ok c) : ∀ t ∈ c.apply scene, t.WithinLimit := by
  cases scene with
  | none =>
    cases he with
    | insert target place => cases hc
    | add selected unionId =>
      obtain rfl := Except.ok.inj hc
      rintro _ ⟨⟩
      exact hnode
  | some tree =>
    obtain rfl := Except.ok.inj hc
    have htree := h tree rfl
    cases he with
    | insert target place =>
      exact Change.forall_mem_apply_ofOption htree fun _ => htree.insert? hnode
    | add selected unionId =>
      exact Change.forall_mem_apply_ofOption htree fun _ => htree.add? hnode

/-- Edits change the first node that fits, which is the one that they have found and checked, and
nothing else; all places that they use are there; and bringing in a node keeps displacements within
their limit. None of this asks for identifiers to be distinct. -/
theorem edited_where_found_and_withinLimit :
    (∀ tree : Node α, tree.EditedWhereFound ∧ tree.AccessesInRange) ∧
    ∀ (scene : Option (Node α)) (node : Node α) (e : Edit α) (c : Change α),
      (∀ t ∈ scene, t.WithinLimit) → node.WithinLimit → e.Brings node →
      e.runScene scene = .ok c → ∀ t ∈ c.apply scene, t.WithinLimit :=
  ⟨fun tree => ⟨tree.editedWhereFound, tree.accessesInRange⟩,
    fun _ _ _ _ h hnode he hc => withinLimit_apply_runScene h hnode he hc⟩

/-- Two displacements with one identifier. The first one in preorder is full. -/
def twinDisplaces : Node Float32 :=
  .combine "u" .union
    [.combine "g" .group [.combine "d" .displace [.circle "a" .zero 1.0, .circle "b" .zero 1.0]],
    .combine "d" .displace [.circle "c" .zero 1.0]]

/-- The full displacement is the one that is found, so its children are exchanged and nothing goes
inside of it. Beside the child of the other one there is room. -/
theorem edited_where_found_twinDisplaces :
    (∀ t ∈ some twinDisplaces, t.WithinLimit) ∧
    (∃ new, twinDisplaces.swapChildren? "d" 0 1 = some new ∧
      ∃ pos n a b, twinDisplaces.FirstAt (·.id == "d") pos n ∧
        n.children[0]? = some a ∧ n.children[1]? = some b ∧
        twinDisplaces.ReplacedAt pos (n.mapChildren fun ns => (ns.set 0 b).set 1 a) new) ∧
    twinDisplaces.insert? "d" (.circle "n" .zero 1.0) .inside = none ∧
    ∃ c, (Edit.insert "c" (.circle "n" .zero 1.0) .after).runScene (some twinDisplaces) = .ok c ∧
      ∀ t ∈ c.apply (some twinDisplaces), t.WithinLimit := by
  obtain ⟨hedits, hlimit⟩ := edited_where_found_and_withinLimit (α := Float32)
  have htwin : ∀ t ∈ some twinDisplaces, t.WithinLimit := by
    rintro _ ⟨⟩
    decide
  refine ⟨htwin, ⟨_, rfl, ?_⟩, rfl, _, rfl, ?_⟩
  · exact (hedits twinDisplaces).2.swap "d" 0 1 _ rfl
  · exact hlimit _ (.circle "n" .zero 1.0) _ _ htwin (by decide) (.insert "c" .after) rfl

end Edit

end DistanceField
