import Mathlib
import DistanceField.Proofs.Edit.Removal

/-!
# Inserting a node

An insertion fills a gap between two siblings, or the one after the last child. The gap is found
from the root: a gap beside a target at the first node that has the target as a child, a gap inside
a target at the first node with its identifier. Other nodes with the identifier do not matter.

What is put into the gap is one block of the preorder, and removing it closes the gap again.
-/

namespace DistanceField.Node

variable {α : Type}

/-! ### The gap -/

/-- A gap at a place relative to a target, with the way down to the operation that it is in: beside
the first child with an identifier, or behind the last child of the node with that identifier. -/
inductive Gap (target : String) : Place → List (Level α) → Level α → Prop
  | before {way : List (Level α)} {info : Info} {op : Operator α} {elder younger : List (Node α)}
    {goal : Node α} (hid : goal.id = target) (helder : ∀ c ∈ elder, c.id ≠ target)
    (hfirst : ∀ m ∈ passed way (.operation info op (elder ++ goal :: younger)),
      m.hasChild target = false) :
    Gap target .before way ⟨info, op, elder, goal :: younger⟩
  | after {way : List (Level α)} {info : Info} {op : Operator α} {elder younger : List (Node α)}
    {goal : Node α} (hid : goal.id = target) (helder : ∀ c ∈ elder, c.id ≠ target)
    (hfirst : ∀ m ∈ passed way (.operation info op (elder ++ goal :: younger)),
      m.hasChild target = false) :
    Gap target .after way ⟨info, op, elder ++ [goal], younger⟩
  | inside {way : List (Level α)} {info : Info} {op : Operator α} {children : List (Node α)}
    (hid : info.id = target)
    (hfirst : ∀ m ∈ passed way (.operation info op children), m.id ≠ target) :
    Gap target .inside way ⟨info, op, children, []⟩

lemma close_concat (info : Info) (op : Operator α) (elder younger : List (Node α)) (goal : Node α) :
    Level.close ⟨info, op, elder ++ [goal], younger⟩
      = .operation info op (elder ++ goal :: younger) := by
  rw [Level.close, List.append_assoc, List.singleton_append]

lemma close_last (info : Info) (op : Operator α) (children : List (Node α)) :
    Level.close ⟨info, op, children, []⟩ = .operation info op children := by
  rw [Level.close, List.append_nil]

lemma insertBeside_eq {id : String} (node : Node α) (after : Bool) {ns : List (Node α)}
    (h : ns.any (·.id == id) = true) :
    ∃ elder goal younger, ns = elder ++ goal :: younger ∧ goal.id = id ∧
      (∀ c ∈ elder, c.id ≠ id) ∧ insertBeside id node after ns
        = elder ++ if after then goal :: node :: younger else node :: goal :: younger := by
  induction ns with
  | nil => cases h
  | cons n rest ih =>
    rw [insertBeside]
    by_cases hid : n.id = id
    · rw [if_pos hid]
      exact ⟨[], n, rest, rfl, hid, fun _ hc => absurd hc List.not_mem_nil, rfl⟩
    · rw [List.any_cons, beq_false_of_ne hid, Bool.false_or] at h
      obtain ⟨elder, goal, younger, rfl, hgoal, helder, heq⟩ := ih h
      rw [if_neg hid, heq]
      exact ⟨n :: elder, goal, younger, rfl, hgoal, List.forall_mem_cons.mpr ⟨hid, helder⟩, rfl⟩

lemma exists_operation_of_acceptsChild {n : Node α} (h : n.acceptsChild = true) :
    ∃ info op children, n = .operation info op children := by
  cases n with
  | primitive info body => cases h
  | operation info op children => exact ⟨info, op, children, rfl⟩

lemma exists_gap_of_insertInside? {tree node new : Node α} {target : String}
    (h : tree.insertInside? target node = some new) :
    ∃ way level, Gap target .inside way level ∧ level.close.acceptsChild = true ∧
      tree = plug way level.close ∧ new = plug way (level.fill node) := by
  rw [insertInside?] at h
  split_ifs at h with hany
  obtain ⟨goal, hfind, haccepts⟩ := (Option.any_eq_true _ _).mp hany
  obtain ⟨info, op, children, rfl⟩ := exists_operation_of_acceptsChild haccepts
  obtain ⟨-, hid⟩ := mem_preorder_of_findFirst? hfind
  obtain ⟨way, rfl, hpassed⟩ := exists_way_of_findFirst? hfind
  rw [update?, replaceFirst?_plug hid hpassed] at h
  refine ⟨way, ⟨info, op, children, []⟩, .inside (beq_iff_eq.mp hid) fun m hm => ?_, ?_, ?_, ?_⟩
  · exact beq_eq_false_iff_ne.mp (hpassed m hm)
  · rw [close_last]
    exact haccepts
  · rw [close_last]
  · exact (Option.some.inj h).symm

lemma exists_gap_of_insertBeside? {tree node new : Node α} {target : String} {after : Bool}
    (h : tree.insertBeside? target node after = some new) :
    ∃ way level, Gap target (if after then .after else .before) way level ∧
      level.close.acceptsChild = true ∧ tree = plug way level.close ∧
      new = plug way (level.fill node) := by
  rw [insertBeside?] at h
  split_ifs at h with hany
  obtain ⟨parent, hfind, haccepts⟩ := (Option.any_eq_true _ _).mp hany
  obtain ⟨info, op, children, rfl⟩ := exists_operation_of_acceptsChild haccepts
  obtain ⟨-, hchild⟩ := mem_preorder_of_findFirst? hfind
  obtain ⟨way, rfl, hpassed⟩ := exists_way_of_findFirst? hfind
  rw [replaceFirst?_plug hchild hpassed] at h
  obtain rfl := Option.some.inj h
  obtain ⟨elder, goal, younger, rfl, hid, helder, heq⟩ := insertBeside_eq node after hchild
  rw [children_operation] at heq
  rw [mapChildren, heq]
  cases after with
  | false =>
    exact ⟨way, ⟨info, op, elder, goal :: younger⟩, .before hid helder hpassed, haccepts, rfl, rfl⟩
  | true =>
    refine ⟨way, ⟨info, op, elder ++ [goal], younger⟩, .after hid helder hpassed, ?_, ?_, ?_⟩
    · rw [close_concat]
      exact haccepts
    · rw [close_concat]
    · rw [Level.fill, List.append_assoc, List.singleton_append]
      rfl

/-- An insertion fills a gap at its place. -/
lemma exists_gap_of_insert? {tree node new : Node α} {target : String} {place : Place}
    (h : tree.insert? target node place = some new) :
    ∃ way level, Gap target place way level ∧ level.close.acceptsChild = true ∧
      tree = plug way level.close ∧ new = plug way (level.fill node) := by
  cases place with
  | before => exact exists_gap_of_insertBeside? h
  | after => exact exists_gap_of_insertBeside? h
  | inside => exact exists_gap_of_insertInside? h

/-! ### Refusals -/

/-- A displacement that has its base and its source. -/
def IsFull (n : Node α) : Prop :=
  n.kind = .op .displace ∧ displaceLimit ≤ n.children.length

lemma acceptsChild_eq_false_iff {n : Node α} :
    n.acceptsChild = false ↔ n.isPrimitive = true ∨ n.IsFull := by
  cases n with
  | primitive info body => exact iff_of_true rfl (.inl rfl)
  | operation info op children =>
    rw [acceptsChild, Bool.or_eq_false_iff, decide_eq_false_iff_not, decide_eq_false_iff_not,
      IsFull, kind, Kind.op.injEq, children_operation, not_not, not_lt]
    exact ⟨.inr, fun h => h.resolve_left Bool.false_ne_true⟩

/-- A target that takes no node at a place: one that has no children to be put among, or where there
is no room for another. -/
def Refuses (tree : Node α) (target : String) : Place → Prop
  | .inside => ∃ goal ∈ tree.preorder, goal.id = target ∧ (goal.isPrimitive = true ∨ goal.IsFull)
  | .before | .after => target = tree.id ∨
    ∃ parent ∈ tree.preorder, target ∈ parent.children.map id ∧ parent.IsFull

/-- A change of the first node that fits, if it takes one more child, is refused only if it takes
none. -/
lemma replaceAccepting_eq_none_iff {tree : Node α} {p : Node α → Bool} {f : Node α → Node α} :
    (if (tree.findFirst? p).any acceptsChild then tree.replaceFirst? p f else none) = none ↔
      ∀ n, tree.findFirst? p = some n → n.acceptsChild = false := by
  rw [← Option.any_eq_false]
  cases hany : (tree.findFirst? p).any acceptsChild with
  | false => exact iff_of_true rfl rfl
  | true =>
    obtain ⟨n, hfind, -⟩ := (Option.any_eq_true _ _).mp hany
    obtain ⟨way, -, hreplace⟩ := exists_plug_of_findFirst? hfind
    rw [if_pos rfl, hreplace]
    exact iff_of_false (Option.some_ne_none _) Bool.false_ne_true.symm

lemma isPrimitive_of_mem_children {n c : Node α} (h : c ∈ n.children) : n.isPrimitive = false := by
  cases n with
  | primitive info body => exact absurd h List.not_mem_nil
  | operation info op children => rfl

/-- Where identifiers occur once, a search for the parent of a node gives the node that it is a
child of. -/
lemma findParent?_eq_some_iff_mem {tree goal parent : Node α} (h : tree.ids.Nodup)
    (hgoal : goal ∈ tree.preorder) :
    tree.findParent? goal.id = some parent ↔ parent ∈ tree.preorder ∧ goal ∈ parent.children := by
  rw [findParent?_eq_some_iff h]
  refine and_congr_right fun hparent => ⟨fun hchild => ?_, List.mem_map_of_mem⟩
  obtain ⟨c, hc, hid⟩ := List.mem_map.mp hchild
  have hmem := (preorder_sublist hparent).subset
    (mem_preorder_of_mem_children hc c.self_mem_preorder)
  exact eq_of_id_eq h hmem hgoal hid ▸ hc

lemma insertBeside?_eq_none_iff_refuses {tree node : Node α} {target : String} {after : Bool}
    (h : tree.ids.Nodup) :
    tree.insertBeside? target node after = none ↔
      target ∉ tree.ids ∨ tree.Refuses target .before := by
  refine replaceAccepting_eq_none_iff.trans ?_
  change (∀ n, tree.findParent? target = some n → _) ↔ _
  cases hfind : tree.findParent? target with
  | none =>
    refine iff_of_true (fun _ hnone => absurd hnone (Option.some_ne_none _).symm) ?_
    exact ((findParent?_eq_none_iff h).mp hfind).imp_right .inl
  | some parent =>
    obtain ⟨hparent, hchild⟩ := (findParent?_eq_some_iff h).mp hfind
    obtain ⟨c, hc, -⟩ := List.mem_map.mp hchild
    have hpresent : target ∈ tree.ids := childIds_subset hparent hchild
    have hroot : target ≠ tree.id := by
      intro heq
      rw [(findParent?_eq_none_iff h).mpr (.inr heq)] at hfind
      cases hfind
    simp only [Option.some.injEq, forall_eq', acceptsChild_eq_false_iff,
      isPrimitive_of_mem_children hc, Bool.false_eq_true, false_or]
    rw [or_iff_right (not_not.mpr hpresent), Refuses, or_iff_right hroot,
      exists_mem_childIds_iff h hfind]

lemma insertInside?_eq_none_iff_refuses {tree node : Node α} {target : String}
    (h : tree.ids.Nodup) :
    tree.insertInside? target node = none ↔ target ∉ tree.ids ∨ tree.Refuses target .inside := by
  refine replaceAccepting_eq_none_iff.trans ?_
  change (∀ n, tree.find? target = some n → _) ↔ _
  cases hfind : tree.find? target with
  | none =>
    refine iff_of_true (fun _ hnone => absurd hnone (Option.some_ne_none _).symm) ?_
    exact .inl (find?_eq_none_iff.mp hfind)
  | some goal =>
    obtain ⟨hgoal, rfl⟩ := (find?_eq_some_iff h).mp hfind
    have hpresent : goal.id ∈ tree.ids := List.mem_map_of_mem hgoal
    simp only [Option.some.injEq, forall_eq', acceptsChild_eq_false_iff]
    rw [or_iff_right (not_not.mpr hpresent), Refuses, exists_mem_id_iff h hfind]

lemma insertInside?_eq_none_iff_isFull {tree node goal : Node α} (h : tree.ids.Nodup)
    (hgoal : goal ∈ tree.preorder) (hop : goal.isPrimitive = false) :
    tree.insertInside? goal.id node = none ↔ goal.IsFull := by
  have hfind := (find?_eq_some_iff h).mpr ⟨hgoal, rfl⟩
  have hpresent : goal.id ∈ tree.ids := List.mem_map_of_mem hgoal
  rw [insertInside?_eq_none_iff_refuses h, or_iff_right (not_not.mpr hpresent), Refuses,
    exists_mem_id_iff h hfind, or_iff_right (Bool.eq_false_iff.mp hop)]

/-- Where identifiers occur once, an insertion is refused if its target is missing or refuses it. -/
lemma insert?_eq_none_iff {tree node : Node α} {target : String} {place : Place}
    (h : tree.ids.Nodup) :
    tree.insert? target node place = none ↔ target ∉ tree.ids ∨ tree.Refuses target place := by
  cases place with
  | before => exact insertBeside?_eq_none_iff_refuses h
  | after => exact insertBeside?_eq_none_iff_refuses h
  | inside => exact insertInside?_eq_none_iff_refuses h

/-! ### Wrapping -/

/-- A tree with another node in the place of one of its nodes: with the own fields of a third node,
and with given children. -/
def Substituted (tree goal like : Node α) (children : List (Node α)) (new : Node α) : Prop :=
  ∃ way n, tree = plug way goal ∧ n.bare = like.bare ∧ n.children = children ∧ new = plug way n

/-- A wrapped node is the only child of what stands in its place. -/
lemma exists_substituted_of_wrap? {tree goal wrapper : Node α} {target : String}
    (hfind : tree.find? target = some goal) (hop : wrapper.isPrimitive = false) :
    ∃ new, tree.wrap? target wrapper = some new ∧ tree.Substituted goal wrapper [goal] new := by
  obtain ⟨way, htree, hreplace⟩ := exists_plug_of_findFirst? hfind
  refine ⟨_, hreplace _, way, _, htree, bare_mapChildren _ wrapper, ?_, rfl⟩
  cases wrapper with
  | primitive info body => cases hop
  | operation info op children => rfl

/-- Wrapping brings in one node and leaves the others in their order. -/
lemma Substituted.outline_eq {tree goal wrapper new : Node α}
    (h : tree.Substituted goal wrapper [goal] new) :
    ∃ before after, tree.outline = before ++ after ∧
      new.outline = before ++ wrapper.bare :: after := by
  obtain ⟨way, n, rfl, hbare, hchildren, rfl⟩ := h
  refine ⟨outlineBefore way, goal.outline ++ outlineAfter way, ?_, ?_⟩
  · rw [outline_plug, List.append_assoc]
  · rw [outline_plug, Node.outline_eq n, hbare, hchildren, List.flatMap_singleton,
      List.append_assoc, List.cons_append]

/-! ### The block that goes in -/

/-- The first node with an identifier, and the nodes before and after its block. -/
structure FirstNode (tree : Node α) (id : String) (pre : List (Node α)) (goal : Node α)
    (post : List (Node α)) : Prop where
  preorder_eq : tree.preorder = pre ++ goal.preorder ++ post
  id_eq : goal.id = id
  id_ne : ∀ m ∈ pre, m.id ≠ id

/-- The first child with an identifier of the first node that has such a child, and the nodes before
and after the block of the child. -/
structure FirstChild (tree : Node α) (id : String) (pre : List (Node α)) (goal : Node α)
    (post : List (Node α)) : Prop where
  preorder_eq : tree.preorder = pre ++ goal.preorder ++ post
  id_eq : goal.id = id
  first : ∃ outer parent elder younger rest, tree.preorder = outer ++ parent.preorder ++ rest ∧
    (∀ m ∈ outer, m.hasChild id = false) ∧ parent.children = elder ++ goal :: younger ∧
    (∀ c ∈ elder, c.id ≠ id) ∧ pre = outer ++ parent :: elder.flatMap preorder

/-- The target that an insertion goes by, and the nodes before and after its block. -/
def Selected (tree : Node α) (target : String) :
    Place → List (Node α) → Node α → List (Node α) → Prop
  | .before | .after => tree.FirstChild target
  | .inside => tree.FirstNode target

/-- The identifiers around a target with those of a node put in: before the block of the target or
just after its end. -/
def splicedIds (place : Place) (pre : List (Node α)) (goal : Node α) (post : List (Node α))
    (node : Node α) : List String :=
  match place with
  | .before => pre.map id ++ node.ids ++ goal.ids ++ post.map id
  | .after | .inside => pre.map id ++ goal.ids ++ node.ids ++ post.map id

lemma map_id_flatMap_preorder (ns : List (Node α)) :
    (ns.flatMap preorder).map id = ns.flatMap ids := List.map_flatMap

lemma firstChild_plug {way : List (Level α)} {info : Info} {op : Operator α} {target : String}
    {elder younger : List (Node α)} {goal : Node α} (hid : goal.id = target)
    (helder : ∀ c ∈ elder, c.id ≠ target)
    (hfirst : ∀ m ∈ passed way (.operation info op (elder ++ goal :: younger)),
      m.hasChild target = false) :
    (plug way (.operation info op (elder ++ goal :: younger))).FirstChild target
      (passed way (.operation info op (elder ++ goal :: younger)) ++
        .operation info op (elder ++ goal :: younger) :: elder.flatMap preorder)
      goal (younger.flatMap preorder ++ following way) where
  preorder_eq := by
    rw [preorder_plug, preorder_eq (.operation info op _), children_operation, List.flatMap_append,
      List.flatMap_cons]
    simp only [List.append_assoc, List.cons_append]
  id_eq := hid
  first := ⟨_, _, elder, younger, _, preorder_plug _ _, hfirst, rfl, helder, rfl⟩

/-- What is put into a gap comes in beside the block of the target. -/
lemma Gap.exists_selected {target : String} {place : Place} {way : List (Level α)}
    {level : Level α} (h : Gap target place way level) (node : Node α) :
    ∃ pre goal post, (plug way level.close).Selected target place pre goal post ∧
      (plug way (level.fill node)).ids = splicedIds place pre goal post node := by
  rw [ids_plug way level.close, ids_fill]
  cases h with
  | @before way info op elder younger goal hid helder hfirst =>
    refine ⟨_, goal, _, firstChild_plug hid helder hfirst, ?_⟩
    simp only [splicedIds, Level.close, List.map_append, List.map_cons, map_id_flatMap_preorder,
      List.flatMap_cons, List.append_assoc, List.cons_append, id_operation]
  | @after way info op elder younger goal hid helder hfirst =>
    rw [close_concat]
    refine ⟨_, goal, _, firstChild_plug hid helder hfirst, ?_⟩
    simp only [splicedIds, List.map_append, List.map_cons, map_id_flatMap_preorder,
      List.flatMap_append, List.flatMap_singleton, List.append_assoc, List.cons_append,
      id_operation]
  | @inside way info op children hid hfirst =>
    rw [close_last]
    refine ⟨_, _, _, ⟨preorder_plug _ _, hid, hfirst⟩, ?_⟩
    simp only [splicedIds, ids_eq (.operation info op children), List.flatMap_nil, List.append_nil,
      List.append_assoc, List.cons_append, id_operation, children_operation]

/-- An insertion puts the identifiers of a node in as one block beside that of its target, and the
removal of the node gives the tree back. Identifiers may occur more than once, as long as that of
the node is new. -/
theorem insert?_splices_block_and_delete {tree node new : Node α} {target : String} {place : Place}
    (hfresh : node.id ∉ tree.ids) (hnew : tree.insert? target node place = some new) :
    (∃ pre goal post, tree.Selected target place pre goal post ∧
      new.ids = splicedIds place pre goal post node) ∧ new.delete node.id = .replaced tree := by
  obtain ⟨way, level, hgap, -, rfl, rfl⟩ := exists_gap_of_insert? hnew
  exact ⟨hgap.exists_selected node, delete_plug_fill hfresh⟩

/-- Two groups with one identifier: the later one in preorder is the one that is nearer to the
root. -/
def twinGroups : Node Float32 :=
  .combine "u" .union
    [.combine "g" .group [.combine "a" .group, .circle "b" .zero 1.0], .combine "a" .group]

/-- A disc goes beside the twin that is a child of the root, and inside the other one. -/
theorem insert?_twinGroups :
    "n" ∉ twinGroups.ids ∧
    (∃ new, twinGroups.insert? "a" (.circle "n" .zero 1.0) .before = some new ∧
      new.ids = ["u", "g", "a", "b", "n", "a"] ∧ new.delete "n" = .replaced twinGroups) ∧
    ∃ new, twinGroups.insert? "a" (.circle "n" .zero 1.0) .inside = some new ∧
      new.ids = ["u", "g", "a", "n", "b", "a"] ∧ new.delete "n" = .replaced twinGroups := by
  have hfresh : (Node.circle "n" .zero 1.0 : Node Float32).id ∉ twinGroups.ids := by decide
  refine ⟨hfresh, ⟨_, rfl, rfl, ?_⟩, ⟨_, rfl, rfl, ?_⟩⟩
  · exact (insert?_splices_block_and_delete hfresh
      (show twinGroups.insert? "a" (.circle "n" .zero 1.0) .before = _ from rfl)).2
  · exact (insert?_splices_block_and_delete hfresh
      (show twinGroups.insert? "a" (.circle "n" .zero 1.0) .inside = _ from rfl)).2

end DistanceField.Node
