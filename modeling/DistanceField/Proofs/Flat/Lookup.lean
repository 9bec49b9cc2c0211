import Mathlib
import DistanceField.Node.Build
import DistanceField.Number.Binary32
import DistanceField.Proofs.Flat.Flattening
import DistanceField.Proofs.Node.Context

/-!
# Searches agree with the flat form

An editor searches the tree: for a node, for its parent, for the warps above it, for all shapes. The
flat form answers the same questions from its records. Where identifiers are distinct there is one
way down to each of them, so whatever way a search takes, it ends at the position that was recorded.
-/

namespace DistanceField

variable {α : Type}

namespace Node

/-! ### One way down -/

lemma exists_path {tree n : Node α} (h : n ∈ tree.preorder) : ∃ above, Path tree above n := by
  have hmem : n ∈ (tree.occurrences []).map Occurrence.node := by
    rw [map_node_occurrences]
    exact tree.postorder_perm_preorder.mem_iff.mpr h
  obtain ⟨o, ho, rfl⟩ := List.mem_map.mp hmem
  obtain ⟨rest, -, hpath⟩ := mem_occurrences_iff.mp ho
  exact ⟨rest, hpath⟩

lemma Path.concat {tree n c : Node α} {above : List (Node α)} (h : Path tree above n)
    (hc : c ∈ n.children) : Path tree (above ++ [n]) c := by
  induction h with
  | here n => exact .down hc (.here c)
  | down hd _ ih => exact .down hd (ih hc)

/-- Where identifiers are distinct, no identifier occurs below two children. -/
lemma eq_of_mem_ids_children {n c d : Node α} {id : String} (h : n.ids.Nodup) (hc : c ∈ n.children)
    (hd : d ∈ n.children) (hidc : id ∈ c.ids) (hidd : id ∈ d.ids) : c = d := by
  rw [ids_eq] at h
  have hdisjoint := (List.nodup_flatMap.mp (List.nodup_cons.mp h).2).2
  have : Std.Symm (Function.onFun List.Disjoint (ids (α := α))) := ⟨fun _ _ hab => hab.symm⟩
  by_contra hne
  exact hdisjoint.forall hc hd hne hidc hidd

/-- Where identifiers are distinct, the nodes above an identifier are known. -/
lemma Path.above_eq {tree m n : Node α} {above above' : List (Node α)} (h : tree.ids.Nodup)
    (hm : Path tree above m) (hn : Path tree above' n) (hid : m.id = n.id) : above = above' := by
  have hroot : ∀ {t c k : Node α}, t.ids.Nodup → c ∈ t.children → k ∈ c.preorder → t.id ≠ k.id := by
    intro t c k ht hc hk hid
    rw [ids_eq] at ht
    refine (List.nodup_cons.mp ht).1 (List.mem_flatMap.mpr ⟨c, hc, ?_⟩)
    rw [hid]
    exact List.mem_map_of_mem hk
  induction hm generalizing above' with
  | here t =>
    cases hn with
    | here => rfl
    | down hd hpath => exact absurd hid (hroot h hd hpath.mem_preorder)
  | @down t c m above hc hpath ih =>
    cases hn with
    | here => exact absurd hid.symm (hroot h hc hpath.mem_preorder)
    | @down _ d _ above' hd hpath' =>
      have hidd : m.id ∈ d.ids := hid ▸ List.mem_map_of_mem hpath'.mem_preorder
      obtain rfl : c = d :=
        eq_of_mem_ids_children h hc hd (List.mem_map_of_mem hpath.mem_preorder) hidd
      have hsub : c.ids.Sublist t.ids :=
        ids_sublist (mem_preorder_of_mem_children hc c.self_mem_preorder)
      rw [ih (hsub.nodup h) hpath' hid]

/-! ### Searches -/

mutual

/-- The nodes above the first node with an identifier, outermost first. -/
def ancestors? (id : String) : Node α → Option (List (Node α))
  | .primitive info _ => if info.id = id then some [] else none
  | .operation info op children =>
    if info.id = id then some []
    else (ancestorsIn? id children).map (.operation info op children :: ·)

/-- The nodes above the first node with an identifier, in a list of trees. -/
def ancestorsIn? (id : String) : List (Node α) → Option (List (Node α))
  | [] => none
  | n :: rest =>
    match n.ancestors? id with
    | some above => some above
    | none => ancestorsIn? id rest

end

/-- The entries of a path for the warps among some nodes. -/
def warpEntries (above : List (Node α)) : List String :=
  (above.filter (·.category = .domain)).map pathEntry

/-- What a search ends with that has a path before it starts. -/
def traced (path : List String) : Option (List (Node α)) → Bool × List String
  | none => (false, path)
  | some above => (true, path ++ warpEntries above)

lemma traceIn_eq {id : String} {ns : List (Node α)}
    (h : ∀ n ∈ ns, ∀ path, n.trace id path = traced path (n.ancestors? id)) (path : List String) :
    traceIn id path ns = traced path (ancestorsIn? id ns) := by
  induction ns with
  | nil => rfl
  | cons n rest ih =>
    obtain ⟨hn, hrest⟩ := List.forall_mem_cons.mp h
    rw [traceIn, ancestorsIn?, hn]
    cases n.ancestors? id with
    | none => exact ih hrest
    | some above => rfl

/-- Whatever path a search starts with, it adds the warps above the node that it finds, and nothing
if there is no such node. -/
lemma trace_eq (id : String) (n : Node α) (path : List String) :
    n.trace id path = traced path (n.ancestors? id) := by
  induction n generalizing path with
  | primitive info body =>
    by_cases hid : info.id = id
    · simp [trace, ancestors?, traced, warpEntries, hid]
    · simp [trace, ancestors?, traced, hid]
  | operation info op children ih =>
    by_cases hid : info.id = id
    · simp [trace, ancestors?, traced, warpEntries, hid]
    · rw [trace, ancestors?, if_neg hid, if_neg hid, traceIn_eq ih, traceIn_eq ih]
      by_cases hdomain : (Node.operation info op children).category = .domain <;>
        cases ancestorsIn? id children <;> simp [traced, warpEntries, hdomain]

lemma ancestry_eq (tree : Node α) (id : String) :
    tree.ancestry id = warpEntries ((tree.ancestors? id).getD []) := by
  rw [ancestry, trace_eq]
  cases tree.ancestors? id <;> rfl

lemma ancestorsIn?_eq (id : String) (ns : List (Node α)) :
    ancestorsIn? id ns = ns.findSome? (ancestors? id) := by
  induction ns with
  | nil => rfl
  | cons n rest ih =>
    rw [ancestorsIn?, List.findSome?_cons, ih]
    split <;> rename_i h <;> rw [h]

lemma path_of_ancestors? {tree : Node α} {id : String} {above : List (Node α)}
    (h : tree.ancestors? id = some above) : ∃ n, Path tree above n ∧ n.id = id := by
  induction tree generalizing above with
  | primitive info body =>
    rw [ancestors?] at h
    split_ifs at h with hid
    obtain rfl := Option.some.inj h
    exact ⟨_, .here _, hid⟩
  | operation info op children ih =>
    rw [ancestors?] at h
    split_ifs at h with hid
    · obtain rfl := Option.some.inj h
      exact ⟨_, .here _, hid⟩
    · rw [ancestorsIn?_eq] at h
      obtain ⟨rest, hrest, rfl⟩ := Option.map_eq_some_iff.mp h
      obtain ⟨c, hc, hbelow⟩ := List.exists_of_findSome?_eq_some hrest
      obtain ⟨n, hpath, hn⟩ := ih c hc hbelow
      exact ⟨n, .down hc hpath, hn⟩

lemma ancestors?_eq_none_iff {tree : Node α} {id : String} :
    tree.ancestors? id = none ↔ id ∉ tree.ids := by
  induction tree with
  | primitive info body =>
    rw [ancestors?, ids_eq, children_primitive, List.flatMap_nil, List.mem_singleton, id_primitive]
    split_ifs with hid
    · exact iff_of_false nofun fun h => h hid.symm
    · exact iff_of_true rfl fun h => hid h.symm
  | operation info op children ih =>
    rw [ancestors?, ids_eq, children_operation, List.mem_cons, List.mem_flatMap, id_operation]
    split_ifs with hid
    · exact iff_of_false nofun fun h => h (.inl hid.symm)
    · rw [ancestorsIn?_eq, Option.map_eq_none_iff, List.findSome?_eq_none_iff]
      constructor
      · rintro h (heq | ⟨c, hc, hmem⟩)
        · exact hid heq.symm
        · exact (ih c hc).mp (h c hc) hmem
      · exact fun h c hc => (ih c hc).mpr fun hmem => h (.inr ⟨c, hc, hmem⟩)

lemma find?_eq_none_iff {tree : Node α} {id : String} : tree.find? id = none ↔ id ∉ tree.ids := by
  rw [find?, findFirst?_eq_none, ids, List.mem_map]
  simp only [beq_eq_false_iff_ne, ne_eq, not_exists, not_and]

/-- A search for an identifier gives the node that has it. -/
lemma find?_eq_some_iff {tree n : Node α} {id : String} (h : tree.ids.Nodup) :
    tree.find? id = some n ↔ n ∈ tree.preorder ∧ n.id = id := by
  constructor
  · intro hfind
    obtain ⟨hmem, hid⟩ := mem_preorder_of_findFirst? hfind
    exact ⟨hmem, beq_iff_eq.mp hid⟩
  · rintro ⟨hmem, rfl⟩
    cases hfind : tree.find? n.id with
    | none => exact absurd (List.mem_map_of_mem hmem) (find?_eq_none_iff.mp hfind)
    | some m =>
      obtain ⟨hm, hid⟩ := mem_preorder_of_findFirst? hfind
      rw [eq_of_id_eq h hm hmem (beq_iff_eq.mp hid)]

lemma exists_mem_id_iff {tree n : Node α} {id : String} {P : Node α → Prop} (h : tree.ids.Nodup)
    (hfind : tree.find? id = some n) : (∃ m ∈ tree.preorder, m.id = id ∧ P m) ↔ P n := by
  simp only [← and_assoc, ← find?_eq_some_iff h, hfind, Option.some.injEq, exists_eq_left']

lemma hasChild_iff {n : Node α} {id : String} :
    n.hasChild id = true ↔ id ∈ n.children.map Node.id := by
  rw [hasChild, List.any_eq_true, List.mem_map]
  simp only [beq_iff_eq]

/-- A search for a parent gives the node that has the child. -/
lemma findParent?_eq_some_iff {tree n : Node α} {id : String} (h : tree.ids.Nodup) :
    tree.findParent? id = some n ↔ n ∈ tree.preorder ∧ id ∈ n.children.map Node.id := by
  constructor
  · intro hfind
    obtain ⟨hmem, hchild⟩ := mem_preorder_of_findFirst? hfind
    exact ⟨hmem, hasChild_iff.mp hchild⟩
  · rintro ⟨hmem, hchild⟩
    cases hfind : tree.findParent? id with
    | none =>
      have hnone := findFirst?_eq_none.mp hfind n hmem
      rw [hasChild_iff.mpr hchild] at hnone
      cases hnone
    | some m =>
      obtain ⟨hm, hchild'⟩ := mem_preorder_of_findFirst? hfind
      obtain ⟨c, hc, hcid⟩ := List.mem_map.mp hchild
      obtain ⟨d, hd, hdid⟩ := List.mem_map.mp (hasChild_iff.mp hchild')
      obtain ⟨above, hpath⟩ := exists_path hmem
      obtain ⟨above', hpath'⟩ := exists_path hm
      -- the ways to the child through either parent are one way, and its last node is the parent
      have hways := Path.above_eq h (hpath'.concat hd) (hpath.concat hc) (hdid.trans hcid.symm)
      rw [List.singleton_inj.mp (List.append_inj_right' hways rfl)]

lemma exists_mem_childIds_iff {tree n : Node α} {id : String} {P : Node α → Prop}
    (h : tree.ids.Nodup) (hfind : tree.findParent? id = some n) :
    (∃ m ∈ tree.preorder, id ∈ m.children.map Node.id ∧ P m) ↔ P n := by
  simp only [← and_assoc, ← findParent?_eq_some_iff h, hfind, Option.some.injEq, exists_eq_left']

/-- Only the root has no parent. -/
lemma findParent?_eq_none_iff {tree : Node α} {id : String} (h : tree.ids.Nodup) :
    tree.findParent? id = none ↔ id ∉ tree.ids ∨ id = tree.id := by
  constructor
  · intro hnone
    by_contra hboth
    obtain ⟨hmem, hroot⟩ := not_or.mp hboth
    obtain ⟨n, hn, rfl⟩ := List.mem_map.mp (not_not.mp hmem)
    obtain ⟨parent, hparent, hchild⟩ := exists_parent hn fun heq => hroot (congrArg id heq)
    have hsome := (findParent?_eq_some_iff h).mpr ⟨hparent, List.mem_map_of_mem hchild⟩
    rw [hnone] at hsome
    cases hsome
  · intro hid
    cases hfind : tree.findParent? id with
    | none => rfl
    | some parent =>
      obtain ⟨hparent, hchild⟩ := (findParent?_eq_some_iff h).mp hfind
      obtain ⟨c, hc, rfl⟩ := List.mem_map.mp hchild
      obtain ⟨above, hpath⟩ := exists_path hparent
      obtain habsent | hroot := hid
      · exact absurd (List.mem_map_of_mem (hpath.concat hc).mem_preorder) habsent
      · -- the root has no way to it but the empty one
        have hempty := Path.above_eq h (hpath.concat hc) (.here tree) hroot
        exact absurd hempty (List.append_ne_nil_of_right_ne_nil _ (List.cons_ne_nil _ _))

/-! ### Shapes -/

lemma collectIn_eq {ns : List (Node α)}
    (h : ∀ n ∈ ns, ∀ out, n.collect out = out ++ n.preorder.filter isPrimitive)
    (out : List (Node α)) :
    collectIn out ns = out ++ (ns.flatMap preorder).filter isPrimitive := by
  induction ns generalizing out with
  | nil => exact (List.append_nil out).symm
  | cons n rest ih =>
    obtain ⟨hn, hrest⟩ := List.forall_mem_cons.mp h
    rw [collectIn, ih hrest, hn, List.flatMap_cons, List.filter_append, List.append_assoc]

lemma collect_eq (n : Node α) (out : List (Node α)) :
    n.collect out = out ++ n.preorder.filter isPrimitive := by
  induction n generalizing out with
  | primitive info body => rfl
  | operation info op children ih =>
    rw [collect, collectIn_eq ih, preorder_eq]
    rfl

lemma primitives_some (tree : Node α) :
    primitives (some tree) = tree.preorder.filter isPrimitive := by
  rw [primitives, collect_eq, List.nil_append]

lemma category_eq_primitive_iff (n : Node α) :
    n.category = .primitive ↔ n.isPrimitive = true := by
  cases n with
  | primitive info body => exact iff_of_true rfl rfl
  | operation info op children =>
    refine iff_of_false ?_ nofun
    rw [category, kind, Kind.category]
    cases op.kind <;> decide

/-- Shapes have no children, so it does not matter whether children come before or after. -/
lemma filter_isPrimitive_postorder (n : Node α) :
    n.postorder.filter isPrimitive = n.preorder.filter isPrimitive := by
  induction n with
  | primitive info body => rfl
  | operation info op children ih =>
    have hroot : ¬ (Node.operation info op children).isPrimitive = true := nofun
    rw [postorder_eq, preorder_eq, List.filter_append, List.filter_cons_of_neg hroot,
      List.filter_cons_of_neg hroot, List.filter_nil, List.append_nil, List.filter_flatMap,
      List.filter_flatMap]
    exact List.flatMap_congr ih

end Node

namespace Flat

/-- An identifier as an entry of a path, behind the catalog label of the recorded kind. -/
def pathLabel? (s : Flat α) (id : String) : Option String :=
  (s.find? id).map fun r => r.kind.label ++ " (" ++ id ++ ")"

/-- Whether the node of an identifier is recorded as a basic shape. -/
def isShape (s : Flat α) (id : String) : Bool :=
  (s.find? id).any fun r => r.kind.category = .primitive

/-- Where identifiers are distinct, the record of an identifier is that of its position. -/
lemma find?_ofScene_of_path {tree n : Node α} {above : List (Node α)} (h : tree.ids.Nodup)
    (hpath : tree.Path above n) :
    (ofScene (some tree)).find? n.id = some (Occurrence.mk above n).record := by
  have hkey : n.id ∈ keys (ofScene (some tree)).records :=
    (mem_keys_ofScene tree n.id).mpr (List.mem_map_of_mem hpath.mem_preorder)
  cases hfind : (ofScene (some tree)).find? n.id with
  | none =>
    obtain ⟨entry, hentry, hid⟩ := List.mem_map.mp hkey
    have habsent := List.lookup_eq_none_iff.mp hfind entry hentry
    simp [hid] at habsent
  | some r =>
    obtain ⟨⟨above', m⟩, hpath', hid, rfl⟩ := path_of_find?_ofScene hfind
    obtain rfl : m = n := Node.eq_of_id_eq h hpath'.mem_preorder hpath.mem_preorder hid
    obtain rfl : above' = above := Node.Path.above_eq h hpath' hpath rfl
    rfl

/-- What searches in a tree and lookups in a flat scene have to agree on. -/
structure Agrees (flat : Flat α) (tree : Node α) : Prop where
  -- the warps above a node are those that its record lists, each labelled by its own record
  ancestry_eq : ∀ id ∈ tree.ids, ∃ r, flat.find? id = some r ∧
    r.domainStack.map flat.pathLabel? = (tree.ancestry id).map some
  ancestry_eq_nil : ∀ id ∉ tree.ids, tree.ancestry id = []
  primitives_eq : (Node.primitives (some tree)).map Node.id = flat.order.filter flat.isShape
  find?_eq_some : ∀ id n, tree.find? id = some n ↔ n ∈ tree.preorder ∧ n.id = id
  find?_eq_none : ∀ id, tree.find? id = none ↔ id ∉ tree.ids
  findParent?_eq_none : ∀ id, tree.findParent? id = none ↔ id ∉ tree.ids ∨ id = tree.id
  findParent?_eq_some : ∀ id n, tree.findParent? id = some n ↔
    n ∈ tree.preorder ∧ ∃ r, flat.find? n.id = some r ∧ id ∈ r.children

section Distinct

variable {tree : Node α} (h : tree.ids.Nodup)

include h

lemma pathLabel?_ofScene {n : Node α} (hn : n ∈ tree.preorder) :
    (ofScene (some tree)).pathLabel? n.id = some n.pathEntry := by
  obtain ⟨above, hpath⟩ := Node.exists_path hn
  rw [pathLabel?, find?_ofScene_of_path h hpath]
  rfl

lemma isShape_ofScene {n : Node α} (hn : n ∈ tree.preorder) :
    (ofScene (some tree)).isShape n.id = n.isPrimitive := by
  obtain ⟨above, hpath⟩ := Node.exists_path hn
  rw [isShape, find?_ofScene_of_path h hpath, Option.any_some, Bool.eq_iff_iff, decide_eq_true_iff]
  exact n.category_eq_primitive_iff

/-- The warps above a node are found in its record. -/
lemma ancestry_ofScene {id : String} (hid : id ∈ tree.ids) :
    ∃ r, (ofScene (some tree)).find? id = some r ∧
      r.domainStack.map (ofScene (some tree)).pathLabel? = (tree.ancestry id).map some := by
  cases habove : tree.ancestors? id with
  | none => exact absurd hid (Node.ancestors?_eq_none_iff.mp habove)
  | some above =>
    obtain ⟨n, hpath, rfl⟩ := Node.path_of_ancestors? habove
    refine ⟨_, find?_ofScene_of_path h hpath, ?_⟩
    rw [Node.ancestry_eq, habove, Option.getD_some, Node.warpEntries, Occurrence.record,
      List.map_map, List.map_map]
    refine List.map_congr_left fun a ha => ?_
    exact pathLabel?_ofScene h (hpath.above_subset_preorder (List.mem_of_mem_filter ha))

lemma map_id_primitives :
    (Node.primitives (some tree)).map Node.id
      = (ofScene (some tree)).order.filter (ofScene (some tree)).isShape := by
  have hshape : ∀ n ∈ tree.postorder,
      ((ofScene (some tree)).isShape ∘ Node.id) n = n.isPrimitive :=
    fun n hn => isShape_ofScene h (tree.postorder_perm_preorder.mem_iff.mp hn)
  rw [order_ofScene, List.filter_map, List.filter_congr hshape, Node.filter_isPrimitive_postorder,
    Node.primitives_some]

end Distinct

/-- Where identifiers are distinct, searching a tree and looking up its flat form agree. -/
theorem agrees_ofScene {tree : Node α} (h : tree.ids.Nodup) :
    (ofScene (some tree)).Agrees tree where
  ancestry_eq _ := ancestry_ofScene h
  ancestry_eq_nil id hid := by
    rw [Node.ancestry_eq, Node.ancestors?_eq_none_iff.mpr hid]
    rfl
  primitives_eq := map_id_primitives h
  find?_eq_some _ _ := Node.find?_eq_some_iff h
  find?_eq_none _ := Node.find?_eq_none_iff
  findParent?_eq_none _ := Node.findParent?_eq_none_iff h
  findParent?_eq_some id n := by
    rw [Node.findParent?_eq_some_iff h]
    refine and_congr_right fun hn => ?_
    obtain ⟨above, hpath⟩ := Node.exists_path hn
    rw [find?_ofScene_of_path h hpath]
    constructor
    · exact fun hchild => ⟨_, rfl, hchild⟩
    · rintro ⟨r, hr, hchild⟩
      obtain rfl := Option.some.inj hr
      exact hchild

/-- A shape under two warps with a group between them, and a shape beside the outer warp. -/
def nestedWarps : Node Float32 :=
  .combine "u" .union
    [.combine "m" .mirror
      [.circle "a" .zero 1.0, .combine "g" .group [.combine "t" .twist [.circle "b" .zero 1.0]]],
    .circle "c" .zero 1.0]

/-- The group does not count as a warp, and the warps are left before the shape beside them. -/
theorem agrees_nestedWarps :
    nestedWarps.ids.Nodup ∧ (ofScene (some nestedWarps)).Agrees nestedWarps ∧
    nestedWarps.ancestry "b" = ["Mirror (m)", "Twist (t)"] ∧ nestedWarps.ancestry "c" = [] := by
  have hids : nestedWarps.ids.Nodup := by decide
  exact ⟨hids, agrees_ofScene hids, by decide, by decide⟩

end Flat

end DistanceField
