import Mathlib
import DistanceField.Node.Build
import DistanceField.Number.Binary32
import DistanceField.Proofs.Node.WellFormed

/-!
# The check

The check goes down a tree, hands on the identifiers that it has seen and stops at a defect. Laid
out as one list it visits the nodes in preorder, each with the identifier of its parent. So it goes
through to the end exactly if the tree is well formed. Otherwise it reports the first node at fault,
wherever that node and the one it repeats are in the tree, and of several faults of that node the
one that is looked for first.
-/

namespace DistanceField

variable {α : Type}

/-- A node with the identifier of its parent; the root has none. -/
structure Visit (α : Type) where
  parent : Option String
  node : Node α

namespace Visit

/-- The identifiers of the visited nodes, in order. -/
def ids (vs : List (Visit α)) : List String := vs.map fun v => v.node.id

@[simp] lemma ids_nil : ids ([] : List (Visit α)) = [] := rfl

@[simp] lemma ids_cons (v : Visit α) (vs : List (Visit α)) :
    ids (v :: vs) = v.node.id :: ids vs := rfl

end Visit

namespace Node

mutual

/-- The nodes of a tree in preorder, each with the identifier of its parent. -/
def visits (parent : Option String) : Node α → List (Visit α)
  | .primitive info body => [⟨parent, .primitive info body⟩]
  | .operation info op children =>
    ⟨parent, .operation info op children⟩ :: visitsList info.id children

/-- The nodes of the trees below a node in preorder, each with the identifier of its parent. -/
def visitsList (parent : String) : List (Node α) → List (Visit α)
  | [] => []
  | n :: rest => n.visits (some parent) ++ visitsList parent rest

end

lemma visitsList_eq (parent : String) (ns : List (Node α)) :
    visitsList parent ns = ns.flatMap (visits (some parent)) := by
  induction ns with
  | nil => rfl
  | cons n rest ih => simp [visitsList, ih]

/-- The visited nodes are those of the preorder. -/
lemma map_node_visits (parent : Option String) (n : Node α) :
    (n.visits parent).map Visit.node = n.preorder := by
  induction n generalizing parent with
  | primitive info body => rfl
  | operation info op children ih =>
    simp only [visits, visitsList_eq, preorder_eq (.operation info op children), List.map_cons,
      List.map_flatMap, children_operation, List.cons.injEq, true_and]
    apply List.flatMap_congr
    intro c hc
    exact ih c hc _

/-! ### Faults of a node -/

/-- A node without an identifier, with one that stands before it, or with too many children. -/
def IsFaulty (earlier : List String) (n : Node α) : Prop :=
  n.id = "" ∨ n.id ∈ earlier ∨ n.kind = .op .displace ∧ 2 < n.children.length

/-- The defect that a faulty node is reported for: of those that it has, the first one. -/
inductive Reports (parent : Option String) (earlier : List String) (n : Node α) : Defect → Prop
  | emptyId (hid : n.id = "") : Reports parent earlier n (.emptyId parent)
  | duplicateId (hid : n.id ≠ "") (hmem : n.id ∈ earlier) :
    Reports parent earlier n (.duplicateId n.id)
  | displaceOverflow (hid : n.id ≠ "") (hmem : n.id ∉ earlier) (hkind : n.kind = .op .displace)
    (hlength : 2 < n.children.length) :
    Reports parent earlier n (.displaceOverflow n.id n.children.length)

lemma defect?_eq_some_iff {parent : Option String} {seen : List String} {n : Node α}
    {defect : Defect} : n.defect? parent seen = some defect ↔ n.Reports parent seen defect := by
  constructor
  · intro h
    rw [defect?] at h
    split_ifs at h with hid hmem hdisplace <;> obtain rfl := Option.some.inj h
    · exact .emptyId hid
    · exact .duplicateId hid hmem
    · exact .displaceOverflow hid hmem hdisplace.1 hdisplace.2
  · rintro (hid | ⟨hid, hmem⟩ | ⟨hid, hmem, hkind, hlength⟩)
    · simp [defect?, hid]
    · simp [defect?, hid, hmem]
    · simp [defect?, hid, hmem, hkind, displaceLimit, hlength]

lemma defect?_eq_none_iff {parent : Option String} {seen : List String} {n : Node α} :
    n.defect? parent seen = none ↔ ¬ n.IsFaulty seen := by
  rw [defect?]
  split_ifs with hid hmem hdisplace
  · simp [IsFaulty, hid]
  · simp [IsFaulty, hmem]
  · simp only [false_iff, not_not]
    exact .inr (.inr hdisplace)
  · simpa [IsFaulty, hid, hmem, displaceLimit] using hdisplace

lemma not_isFaulty_iff {earlier : List String} {n : Node α} :
    ¬ n.IsFaulty earlier ↔ n.id ≠ "" ∧ n.id ∉ earlier ∧
      (n.kind = .op .displace → n.children.length ≤ displaceLimit) := by
  simp only [IsFaulty, not_or, not_and, not_lt]
  rfl

lemma Reports.isFaulty {parent : Option String} {earlier : List String} {n : Node α}
    {defect : Defect} (h : n.Reports parent earlier defect) : n.IsFaulty earlier := by
  cases h with
  | emptyId hid => exact .inl hid
  | duplicateId _ hmem => exact .inr (.inl hmem)
  | displaceOverflow _ _ hkind hlength => exact .inr (.inr ⟨hkind, hlength⟩)

/-- A fault does not depend on the order of what stands before. -/
lemma Reports.congr {parent : Option String} {earlier earlier' : List String} {n : Node α}
    {defect : Defect} (h : ∀ id, id ∈ earlier ↔ id ∈ earlier') :
    n.Reports parent earlier defect ↔ n.Reports parent earlier' defect := by
  simp only [← defect?_eq_some_iff, defect?, h]

end Node

/-! ### The check as one pass -/

namespace Visit

/-- Look at the visited nodes in order, and stop at a defect. -/
def scan (seen : List String) : List (Visit α) → Except Defect (List String)
  | [] => .ok seen
  | v :: rest =>
    match v.node.defect? v.parent seen with
    | some defect => .error defect
    | none => scan (v.node.id :: seen) rest

lemma scan_append (seen : List String) (vs ws : List (Visit α)) :
    scan seen (vs ++ ws) =
      match scan seen vs with
      | .error defect => .error defect
      | .ok seen => scan seen ws := by
  induction vs generalizing seen with
  | nil => rfl
  | cons v vs ih =>
    simp only [List.cons_append, scan]
    cases v.node.defect? v.parent seen with
    | some defect => rfl
    | none => exact ih _

end Visit

namespace Node

open Visit

lemma checkList_eq_scan {parent : String} {ns : List (Node α)}
    (h : ∀ n ∈ ns, ∀ parent seen, n.check parent seen = scan seen (n.visits parent))
    (seen : List String) : checkList parent seen ns = scan seen (visitsList parent ns) := by
  induction ns generalizing seen with
  | nil => rfl
  | cons n rest ih =>
    have hrest := ih fun m hm => h m (List.mem_cons_of_mem n hm)
    rw [checkList, visitsList, scan_append, h n List.mem_cons_self]
    cases scan seen (n.visits (some parent)) with
    | error defect => rfl
    | ok seen' => exact hrest seen'

lemma check_eq_scan (n : Node α) (parent : Option String) (seen : List String) :
    n.check parent seen = scan seen (n.visits parent) := by
  induction n generalizing parent seen with
  | primitive info body => rfl
  | operation info op children ih =>
    rw [check, visits, scan]
    cases (Node.operation info op children).defect? parent seen with
    | some defect => rfl
    | none => exact checkList_eq_scan ih _

end Node

/-! ### Where the pass stops -/

namespace Visit

/-- Visits in which no node is at fault, given the identifiers before them. -/
def Faultless (seen : List String) (vs : List (Visit α)) : Prop :=
  ∀ before v after, vs = before ++ v :: after → ¬ v.node.IsFaulty ((ids before).reverse ++ seen)

lemma faultless_nil (seen : List String) : Faultless seen ([] : List (Visit α)) := by
  intro before v after h
  simp at h

lemma faultless_cons {seen : List String} {v : Visit α} {vs : List (Visit α)} :
    Faultless seen (v :: vs) ↔ ¬ v.node.IsFaulty seen ∧ Faultless (v.node.id :: seen) vs := by
  constructor
  · intro h
    refine ⟨h [] v vs rfl, ?_⟩
    rintro before u after rfl
    simpa using h (v :: before) u after rfl
  · rintro ⟨hv, hvs⟩ before u after h
    rcases List.cons_eq_append_iff.mp h with ⟨rfl, heq⟩ | ⟨before', rfl, rfl⟩
    · obtain ⟨rfl, rfl⟩ := List.cons.inj heq
      exact hv
    · simpa using hvs before' u after rfl

/-- Visits are faultless if each node is at no fault by itself and the identifiers are new each
time. -/
lemma faultless_iff {seen : List String} {vs : List (Visit α)} :
    Faultless seen vs ↔
      (∀ v ∈ vs, v.node.kind = .op .displace → v.node.children.length ≤ displaceLimit) ∧
      "" ∉ ids vs ∧ (ids vs).Nodup ∧ (ids vs).Disjoint seen := by
  induction vs generalizing seen with
  | nil => exact iff_of_true (faultless_nil seen) (by simp)
  | cons v vs ih =>
    rw [faultless_cons, ih, Node.not_isFaulty_iff, List.forall_mem_cons]
    simp only [ids_cons, List.mem_cons, List.nodup_cons, List.disjoint_cons_left,
      List.disjoint_cons_right, not_or]
    constructor
    · rintro ⟨⟨hid, hseen, harity⟩, hrest, hempty, hnodup, hfirst, hdisjoint⟩
      exact ⟨⟨harity, hrest⟩, ⟨Ne.symm hid, hempty⟩, ⟨hfirst, hnodup⟩, hseen, hdisjoint⟩
    · rintro ⟨⟨harity, hrest⟩, ⟨hid, hempty⟩, ⟨hfirst, hnodup⟩, hseen, hdisjoint⟩
      exact ⟨⟨Ne.symm hid, hseen, harity⟩, hrest, hempty, hnodup, hfirst, hdisjoint⟩

lemma exists_scan_eq_ok_iff {seen : List String} {vs : List (Visit α)} :
    (∃ seen', scan seen vs = .ok seen') ↔ Faultless seen vs := by
  induction vs generalizing seen with
  | nil => exact iff_of_true ⟨seen, rfl⟩ (faultless_nil seen)
  | cons v vs ih =>
    rw [scan, faultless_cons]
    cases hdefect : v.node.defect? v.parent seen with
    | some defect =>
      exact iff_of_false nofun fun h => h.1 (Node.defect?_eq_some_iff.mp hdefect).isFaulty
    | none =>
      rw [and_iff_right (Node.defect?_eq_none_iff.mp hdefect)]
      exact ih

/-- A pass stops at the first node at fault. -/
lemma scan_eq_error_iff {seen : List String} {vs : List (Visit α)} {defect : Defect} :
    scan seen vs = .error defect ↔ ∃ before v after, vs = before ++ v :: after ∧
      Faultless seen before ∧ v.node.Reports v.parent ((ids before).reverse ++ seen) defect := by
  induction vs generalizing seen with
  | nil => simp [scan]
  | cons v vs ih =>
    rw [scan]
    cases hdefect : v.node.defect? v.parent seen with
    | some first =>
      have hreports := Node.defect?_eq_some_iff.mp hdefect
      constructor
      · intro h
        obtain rfl := Except.error.inj h
        exact ⟨[], v, vs, rfl, faultless_nil seen, hreports⟩
      · rintro ⟨before, u, after, heq, hbefore, hu⟩
        rcases List.cons_eq_append_iff.mp heq with ⟨rfl, heq⟩ | ⟨before', rfl, rfl⟩
        · obtain ⟨rfl, rfl⟩ := List.cons.inj heq
          have hagain := Node.defect?_eq_some_iff.mpr hu
          rw [ids_nil, List.reverse_nil, List.nil_append, hdefect] at hagain
          rw [Option.some.inj hagain]
        · -- nothing behind a faulty node is reported
          exact absurd hreports.isFaulty (faultless_cons.mp hbefore).1
    | none =>
      have hv := Node.defect?_eq_none_iff.mp hdefect
      simp only [ih]
      constructor
      · rintro ⟨before, u, after, rfl, hbefore, hu⟩
        exact ⟨v :: before, u, after, rfl, faultless_cons.mpr ⟨hv, hbefore⟩, by simpa using hu⟩
      · rintro ⟨before, u, after, heq, hbefore, hu⟩
        rcases List.cons_eq_append_iff.mp heq with ⟨rfl, heq⟩ | ⟨before', rfl, rfl⟩
        · obtain ⟨rfl, rfl⟩ := List.cons.inj heq
          exact absurd (by simpa using hu.isFaulty) hv
        · exact ⟨before', u, after, rfl, (faultless_cons.mp hbefore).2, by simpa using hu⟩

end Visit

namespace Node

/-- The visits of a tree up to the first node at fault. -/
structure FirstFault (tree : Node α) (before : List (Visit α)) (v : Visit α) : Prop where
  visits_eq : ∃ after, tree.visits none = before ++ v :: after
  isFaulty : v.node.IsFaulty (Visit.ids before)
  not_isFaulty : ∀ front u back, before = front ++ u :: back → ¬ u.node.IsFaulty (Visit.ids front)

lemma isFaulty_reverse_append_nil {n : Node α} {earlier : List String} :
    n.IsFaulty (earlier.reverse ++ []) ↔ n.IsFaulty earlier := by
  simp [IsFaulty]

/-- A tree passes the check exactly if it is well formed. -/
lemma validate_eq_ok_iff (tree : Node α) : tree.validate = .ok () ↔ tree.WellFormed := by
  have hscan : tree.validate = .ok () ↔ ∃ seen, Visit.scan [] (tree.visits none) = .ok seen := by
    rw [validate, check_eq_scan]
    cases Visit.scan [] (tree.visits none) <;> simp
  have hids : Visit.ids (tree.visits none) = tree.ids := by
    rw [ids, ← tree.map_node_visits none, List.map_map]
    rfl
  have hlimit : (∀ v ∈ tree.visits none,
      v.node.kind = .op .displace → v.node.children.length ≤ displaceLimit) ↔ tree.WithinLimit := by
    rw [WithinLimit, ← tree.map_node_visits none, List.forall_mem_map]
  rw [hscan, Visit.exists_scan_eq_ok_iff, Visit.faultless_iff, hids, hlimit]
  constructor
  · rintro ⟨hlimit, hempty, hnodup, -⟩
    exact ⟨hlimit, hempty, hnodup⟩
  · rintro ⟨hlimit, hempty, hnodup⟩
    exact ⟨hlimit, hempty, hnodup, List.disjoint_nil_right _⟩

lemma validate_eq_error_iff {tree : Node α} {defect : Defect} :
    tree.validate = .error defect ↔
      ∃ before v, tree.FirstFault before v ∧ v.node.Reports v.parent (Visit.ids before) defect := by
  have hscan : tree.validate = .error defect ↔
      Visit.scan [] (tree.visits none) = .error defect := by
    rw [validate, check_eq_scan]
    cases Visit.scan [] (tree.visits none) <;> simp
  have hcongr : ∀ (before : List (Visit α)) (v : Visit α),
      v.node.Reports v.parent ((Visit.ids before).reverse ++ []) defect ↔
        v.node.Reports v.parent (Visit.ids before) defect :=
    fun before v => Reports.congr (by simp)
  simp only [hscan, Visit.scan_eq_error_iff, Visit.Faultless, isFaulty_reverse_append_nil, hcongr]
  constructor
  · rintro ⟨before, v, after, heq, hbefore, hv⟩
    exact ⟨before, v, ⟨⟨after, heq⟩, hv.isFaulty, hbefore⟩, hv⟩
  · rintro ⟨before, v, ⟨⟨after, heq⟩, -, hbefore⟩, hv⟩
    exact ⟨before, v, after, heq, hbefore, hv⟩

/-- A tree passes the check if every identifier is there and occurs once and no displacement has
more than two children. Otherwise the first node at fault in preorder is reported, for its first
fault. -/
theorem validate_specification (tree : Node α) :
    (tree.validate = .ok () ↔ (∀ n ∈ tree.preorder, n.id ≠ "") ∧ tree.ids.Nodup ∧
      ∀ n ∈ tree.preorder, n.kind = .op .displace → n.children.length ≤ 2) ∧
    (tree.visits none).map Visit.node = tree.preorder ∧
    ∀ defect, tree.validate = .error defect ↔
      ∃ before v, tree.FirstFault before v ∧ v.node.Reports v.parent (Visit.ids before) defect := by
  refine ⟨?_, tree.map_node_visits none, fun defect => validate_eq_error_iff⟩
  have hids : "" ∉ tree.ids ↔ ∀ n ∈ tree.preorder, n.id ≠ "" := by
    rw [ids, List.mem_map, not_exists]
    simp only [not_and, ne_eq]
  rw [validate_eq_ok_iff, ← hids]
  constructor
  · rintro ⟨hlimit, hempty, hnodup⟩
    exact ⟨hempty, hnodup, hlimit⟩
  · rintro ⟨hempty, hnodup, hlimit⟩
    exact ⟨hlimit, hempty, hnodup⟩

/-- A displacement that repeats an identifier and is overfull as well is reported for the
identifier, and what is below it is not looked at. -/
example : (Node.combine "u" .union
    [.circle "a" .zero 1.0, .combine "a" .displace
      [.circle "" .zero 1.0, .circle "b" .zero 1.0, .circle "c" .zero 1.0]] :
    Node Float32).validate = .error (.duplicateId "a") := rfl

end Node

end DistanceField
