import Mathlib
import DistanceField.Proofs.Tree
import DistanceField.Proofs.Flat.Table

/-!
# What a flat scene says about its tree

Flattening walks through a tree and hands on what it has taken down so far. The records come in one
order, children first, so the walk can be forgotten once the list of records is known.

The records are described by positions in the tree: an occurrence is a node together with the nodes
above it. The table keeps for every identifier the record of its last occurrence.

Trees need not have distinct identifiers here. Where they do, the table has an entry for every node.
-/

namespace DistanceField

variable {α : Type}

/-! ### The walk -/

namespace Node

mutual

/-- The records of a tree under some warps, each after those of its children. -/
def records (stack : List String) : Node α → List (Record α)
  | .primitive info body => [(Node.primitive info body).record stack]
  | .operation info op children =>
    let n := Node.operation info op children
    recordsList (n.stackBelow stack) children ++ [n.record stack]

/-- The records of a list of trees under some warps. -/
def recordsList (stack : List String) : List (Node α) → List (Record α)
  | [] => []
  | n :: rest => n.records stack ++ recordsList stack rest

end

lemma recordsList_eq (stack : List String) (ns : List (Node α)) :
    recordsList stack ns = ns.flatMap (records stack) := by
  induction ns with
  | nil => rfl
  | cons n rest ih => rw [recordsList, ih, List.flatMap_cons]

lemma records_eq (stack : List String) (n : Node α) :
    n.records stack = n.children.flatMap (records (n.stackBelow stack)) ++ [n.record stack] := by
  cases n with
  | primitive info body => rfl
  | operation info op children => rw [records, recordsList_eq]; rfl

lemma flattenList_eq {stack : List String} {ns : List (Node α)}
    (h : ∀ n ∈ ns, ∀ stack out, n.flatten stack out = (n.records stack).foldl Flat.add out)
    (out : Flat α) :
    flattenList stack out ns = (ns.flatMap (records stack)).foldl Flat.add out := by
  induction ns generalizing out with
  | nil => rfl
  | cons n rest ih =>
    obtain ⟨hn, hrest⟩ := List.forall_mem_cons.mp h
    rw [flattenList, ih hrest, hn, List.flatMap_cons, List.foldl_append]

/-- The walk through a tree takes down its records, whatever was taken down before. -/
lemma flatten_eq (n : Node α) (stack : List String) (out : Flat α) :
    n.flatten stack out = (n.records stack).foldl Flat.add out := by
  induction n generalizing stack out with
  | primitive info body => rfl
  | operation info op children ih =>
    rw [flatten, flattenList_eq ih, records_eq, List.foldl_concat]
    rfl

end Node

lemma Flat.ofScene_some (tree : Node α) :
    ofScene (some tree) =
      { records := table (tree.records []), root := tree.id,
        order := (tree.records []).map Record.id } := by
  rw [ofScene, Node.flatten_eq, foldl_add]

/-! ### Positions in a tree -/

/-- A node and the nodes above it, outermost first. -/
structure Occurrence (α : Type) where
  above : List (Node α)
  node : Node α

namespace Node

mutual

/-- The nodes of the tree, each after its children. -/
def postorder : Node α → List (Node α)
  | .primitive info body => [.primitive info body]
  | .operation info op children => postorderList children ++ [.operation info op children]

/-- The nodes of a list of trees, each after its children. -/
def postorderList : List (Node α) → List (Node α)
  | [] => []
  | n :: rest => n.postorder ++ postorderList rest

end

mutual

/-- The occurrences in a tree that stands below some nodes, each after those of its children. -/
def occurrences (above : List (Node α)) : Node α → List (Occurrence α)
  | .primitive info body => [⟨above, .primitive info body⟩]
  | .operation info op children =>
    occurrencesList (above ++ [.operation info op children]) children
      ++ [⟨above, .operation info op children⟩]

/-- The occurrences in a list of trees that stand below some nodes. -/
def occurrencesList (above : List (Node α)) : List (Node α) → List (Occurrence α)
  | [] => []
  | n :: rest => n.occurrences above ++ occurrencesList above rest

end

/-- A way down from a node: every node of the list is the parent of the next one, and the last one
is the parent of the node that is reached. -/
inductive Path : Node α → List (Node α) → Node α → Prop
  | here (n : Node α) : Path n [] n
  | down {n c m : Node α} {above : List (Node α)} (hc : c ∈ n.children) (h : Path c above m) :
    Path n (n :: above) m

/-- The last occurrence of an identifier in a tree, children counting before their parent. -/
def lastOccurrence? (tree : Node α) (id : String) : Option (Occurrence α) :=
  (tree.occurrences []).reverse.find? (·.node.id == id)

end Node

/-- What is recorded of an occurrence. -/
def Occurrence.record (o : Occurrence α) : Record α where
  id := o.node.id
  kind := o.node.kind
  settings := o.node.settings
  domainStack := (o.above.filter (·.category = .domain)).map Node.id
  children := o.node.children.map Node.id

/-! ### Orders of a tree -/

namespace Node

lemma postorderList_eq (ns : List (Node α)) : postorderList ns = ns.flatMap postorder := by
  induction ns with
  | nil => rfl
  | cons n rest ih => rw [postorderList, ih, List.flatMap_cons]

lemma postorder_eq (n : Node α) : n.postorder = n.children.flatMap postorder ++ [n] := by
  cases n with
  | primitive info body => rfl
  | operation info op children => rw [postorder, postorderList_eq]; rfl

lemma occurrencesList_eq (above : List (Node α)) (ns : List (Node α)) :
    occurrencesList above ns = ns.flatMap (occurrences above) := by
  induction ns with
  | nil => rfl
  | cons n rest ih => rw [occurrencesList, ih, List.flatMap_cons]

lemma occurrences_eq (above : List (Node α)) (n : Node α) :
    n.occurrences above = n.children.flatMap (occurrences (above ++ [n])) ++ [⟨above, n⟩] := by
  cases n with
  | primitive info body => rfl
  | operation info op children => rw [occurrences, occurrencesList_eq]; rfl

lemma postorder_perm_preorder (n : Node α) : n.postorder.Perm n.preorder := by
  induction n with
  | primitive info body => exact List.Perm.refl _
  | operation info op children ih =>
    rw [postorder_eq, preorder_eq]
    have hchildren : (children.flatMap postorder).Perm (children.flatMap preorder) :=
      List.Perm.flatMap_left children ih
    exact (List.perm_append_singleton _ _).trans (hchildren.cons _)

lemma length_postorder (n : Node α) : n.postorder.length = n.size :=
  n.postorder_perm_preorder.length_eq

lemma map_node_occurrences (n : Node α) (above : List (Node α)) :
    (n.occurrences above).map Occurrence.node = n.postorder := by
  induction n generalizing above with
  | primitive info body => rfl
  | operation info op children ih =>
    rw [occurrences_eq, postorder_eq, List.map_append, List.map_flatMap]
    refine congrArg₂ _ ?_ rfl
    exact List.flatMap_congr fun c hc => ih c hc _

/-- The records of a tree are those of its occurrences; the warps above a node are picked from all
nodes above it. -/
lemma records_eq_map_record (n : Node α) (above : List (Node α)) :
    n.records ((above.filter (·.category = .domain)).map id)
      = (n.occurrences above).map Occurrence.record := by
  induction n generalizing above with
  | primitive info body => rfl
  | operation info op children ih =>
    rw [occurrences_eq, records_eq, List.map_append, List.map_flatMap]
    refine congrArg₂ _ ?_ rfl
    refine List.flatMap_congr fun c hc => ?_
    rw [← ih c hc, stackBelow]
    refine congrArg (fun stack => c.records stack) ?_
    rw [List.filter_append, List.map_append, List.filter_singleton]
    split_ifs with hdomain <;> simp_all

lemma map_id_records (n : Node α) :
    (n.records []).map Record.id = n.postorder.map Node.id := by
  have hrecords := n.records_eq_map_record []
  rw [List.filter_nil, List.map_nil] at hrecords
  rw [hrecords, ← n.map_node_occurrences [], List.map_map, List.map_map]
  rfl

/-! ### Ways down -/

lemma mem_occurrences_iff {n : Node α} {above : List (Node α)} {o : Occurrence α} :
    o ∈ n.occurrences above ↔ ∃ rest, o.above = above ++ rest ∧ Path n rest o.node := by
  induction n generalizing above with
  | primitive info body =>
    constructor
    · intro h
      obtain rfl : o = ⟨above, .primitive info body⟩ := List.mem_singleton.mp h
      exact ⟨[], (List.append_nil _).symm, .here _⟩
    · rintro ⟨rest, habove, hpath⟩
      obtain ⟨o_above, o_node⟩ := o
      cases hpath with
      | here => simp_all [occurrences]
      | down hc => exact absurd hc List.not_mem_nil
  | operation info op children ih =>
    rw [occurrences_eq, List.mem_append, List.mem_flatMap, List.mem_singleton]
    constructor
    · rintro (⟨c, hc, ho⟩ | rfl)
      · obtain ⟨rest, habove, hpath⟩ := (ih c hc).mp ho
        exact ⟨_ :: rest, by rw [habove, List.append_assoc]; rfl, .down hc hpath⟩
      · exact ⟨[], (List.append_nil _).symm, .here _⟩
    · rintro ⟨rest, habove, hpath⟩
      obtain ⟨o_above, o_node⟩ := o
      cases hpath with
      | here =>
        right
        rw [List.append_nil] at habove
        exact congrArg (Occurrence.mk · _) habove
      | @down _ c _ rest hc hpath =>
        left
        exact ⟨c, hc, (ih c hc).mpr ⟨rest, by rw [habove, List.append_assoc]; rfl, hpath⟩⟩

lemma Path.mem_preorder {n m : Node α} {above : List (Node α)} (h : Path n above m) :
    m ∈ n.preorder := by
  induction h with
  | here n => exact n.self_mem_preorder
  | down hc _ ih => exact mem_preorder_of_mem_children hc ih

lemma Path.above_subset_preorder {n m : Node α} {above : List (Node α)} (h : Path n above m) :
    above ⊆ n.preorder := by
  induction h with
  | here n => exact List.nil_subset _
  | @down n c m above hc _ ih =>
    refine List.cons_subset.mpr ⟨n.self_mem_preorder, fun a ha => ?_⟩
    exact mem_preorder_of_mem_children hc (ih ha)

/-! ### Children come first -/

lemma postorder_sublist {tree n : Node α} (h : n ∈ tree.preorder) :
    n.postorder.Sublist tree.postorder := by
  induction tree with
  | primitive info body =>
    obtain rfl : n = .primitive info body := List.mem_singleton.mp h
    exact List.Sublist.refl _
  | operation info op children ih =>
    rw [preorder_eq, List.mem_cons, List.mem_flatMap] at h
    obtain rfl | ⟨c, hc, hn⟩ := h
    · exact List.Sublist.refl _
    · rw [postorder_eq (.operation info op children)]
      have hchild : c.postorder.Sublist (children.flatMap postorder) :=
        List.sublist_flatten_of_mem (List.mem_map_of_mem hc)
      exact ((ih c hc hn).trans hchild).trans (List.sublist_append_left _ _)

lemma child_sublist_postorder {tree n c : Node α} (hn : n ∈ tree.preorder) (hc : c ∈ n.children) :
    [c, n].Sublist tree.postorder := by
  refine List.Sublist.trans ?_ (postorder_sublist hn)
  rw [postorder_eq n]
  have hmem : c ∈ n.children.flatMap postorder :=
    List.mem_flatMap.mpr ⟨c, hc, c.postorder_perm_preorder.mem_iff.mpr c.self_mem_preorder⟩
  exact List.Sublist.append (List.singleton_sublist.mpr hmem) (List.Sublist.refl [n])

end Node

lemma idxOf_lt_idxOf_of_sublist {a b : String} {l : List String} (hl : l.Nodup)
    (h : [a, b].Sublist l) : l.idxOf a < l.idxOf b := by
  induction l with
  | nil => cases h
  | cons x rest ih =>
    obtain ⟨hx, hrest⟩ := List.nodup_cons.mp hl
    cases h with
    | cons _ h =>
      have ha : x ≠ a := fun hxa => hx (hxa ▸ h.subset (by simp))
      have hb : x ≠ b := fun hxb => hx (hxb ▸ h.subset (by simp))
      rw [List.idxOf_cons_ne _ ha, List.idxOf_cons_ne _ hb]
      exact Nat.succ_lt_succ (ih hrest h)
    | cons_cons _ h =>
      have hb : a ≠ b := fun hab => hx (hab ▸ List.singleton_sublist.mp h)
      rw [List.idxOf_cons_self, List.idxOf_cons_ne _ hb]
      exact Nat.succ_pos _

/-! ### The description -/

namespace Flat

lemma order_ofScene (tree : Node α) :
    (ofScene (some tree)).order = tree.postorder.map Node.id := by
  rw [ofScene_some, tree.map_id_records]

lemma nodup_keys_ofScene (tree : Node α) : (keys (ofScene (some tree)).records).Nodup := by
  rw [ofScene_some]
  exact nodup_keys_table _

lemma find?_of_mem_records {tree : Node α} {id : String} {r : Record α}
    (h : (id, r) ∈ (ofScene (some tree)).records) : (ofScene (some tree)).find? id = some r := by
  rw [ofScene_some] at h ⊢
  exact lookup_of_mem_table h

lemma mem_keys_ofScene (tree : Node α) (id : String) :
    id ∈ keys (ofScene (some tree)).records ↔ id ∈ tree.ids := by
  rw [ofScene_some, mem_keys_table, tree.map_id_records]
  exact (tree.postorder_perm_preorder.map Node.id).mem_iff

lemma find?_ofScene (tree : Node α) (id : String) :
    (ofScene (some tree)).find? id = (tree.lastOccurrence? id).map Occurrence.record := by
  have hrecords := tree.records_eq_map_record []
  rw [List.filter_nil, List.map_nil] at hrecords
  rw [find?, ofScene_some, hrecords, lookup_table, ← List.map_reverse, List.find?_map]
  rfl

/-- A record that is found is that of some position in the tree. -/
lemma path_of_find?_ofScene {tree : Node α} {id : String} {r : Record α}
    (h : (ofScene (some tree)).find? id = some r) :
    ∃ o : Occurrence α, tree.Path o.above o.node ∧ o.node.id = id ∧ o.record = r := by
  rw [find?_ofScene, Option.map_eq_some_iff] at h
  obtain ⟨o, ho, hr⟩ := h
  have hmem : o ∈ tree.occurrences [] := List.mem_reverse.mp (List.mem_of_find?_eq_some ho)
  obtain ⟨rest, habove, hpath⟩ := Node.mem_occurrences_iff.mp hmem
  have hid := List.find?_some ho
  refine ⟨o, ?_, beq_iff_eq.mp hid, hr⟩
  rw [habove]
  exact hpath

lemma length_ofScene_eq_iff (tree : Node α) :
    (ofScene (some tree)).records.length = tree.size ↔ tree.ids.Nodup := by
  have hlength : (tree.records []).length = tree.size := by
    rw [← tree.length_postorder, ← List.length_map Record.id, tree.map_id_records, List.length_map]
  rw [ofScene_some, ← hlength, length_table_eq_iff, tree.map_id_records]
  exact (tree.postorder_perm_preorder.map Node.id).nodup_iff

/-- What the flat form of a tree says, in terms of positions in the tree. -/
structure Describes (flat : Flat α) (tree : Node α) : Prop where
  order_eq : flat.order = tree.postorder.map Node.id
  length_order : flat.order.length = tree.size
  root_eq : flat.root = tree.id
  root_last : flat.order.getLast? = some flat.root
  nodup_keys : (flat.records.map Prod.fst).Nodup
  mem_keys : ∀ id, id ∈ flat.records.map Prod.fst ↔ id ∈ tree.ids
  -- the occurrences are the nodes of the tree in that order, each with the nodes above it
  nodes_eq : (tree.occurrences []).map Occurrence.node = tree.postorder
  occurs_iff : ∀ o, o ∈ tree.occurrences [] ↔ tree.Path o.above o.node
  record_eq : ∀ id, flat.find? id = (tree.lastOccurrence? id).map Occurrence.record
  id_eq : ∀ id r, flat.find? id = some r → r.id = id
  children_mem : ∀ id r, flat.find? id = some r → r.children ⊆ flat.records.map Prod.fst
  domainStack_mem : ∀ id r, flat.find? id = some r → r.domainStack ⊆ flat.records.map Prod.fst
  order_mem : flat.order ⊆ flat.records.map Prod.fst
  root_mem : flat.root ∈ flat.records.map Prod.fst
  length_eq_iff : flat.records.length = tree.size ↔ tree.ids.Nodup
  children_first : tree.ids.Nodup → ∀ n ∈ tree.preorder, ∀ c ∈ n.children,
    flat.order.idxOf c.id < flat.order.idxOf n.id

/-- The flat form of every tree describes it. -/
theorem describes_ofScene (tree : Node α) : (ofScene (some tree)).Describes tree where
  order_eq := order_ofScene tree
  length_order := by rw [order_ofScene, List.length_map, Node.length_postorder]
  root_eq := rfl
  root_last := by
    rw [order_ofScene, Node.postorder_eq, List.map_append, List.map_singleton,
      List.getLast?_concat]
    rfl
  nodup_keys := nodup_keys_ofScene tree
  mem_keys := mem_keys_ofScene tree
  nodes_eq := tree.map_node_occurrences []
  occurs_iff o := by
    rw [Node.mem_occurrences_iff]
    constructor
    · rintro ⟨rest, habove, hpath⟩
      rw [habove]
      exact hpath
    · exact fun hpath => ⟨o.above, rfl, hpath⟩
  record_eq := find?_ofScene tree
  id_eq id r h := by
    obtain ⟨o, -, hid, rfl⟩ := path_of_find?_ofScene h
    exact hid
  children_mem id r h := by
    obtain ⟨o, hpath, -, rfl⟩ := path_of_find?_ofScene h
    intro child hchild
    obtain ⟨c, hc, rfl⟩ := List.mem_map.mp hchild
    refine (mem_keys_ofScene tree c.id).mpr (List.mem_map_of_mem ?_)
    have hmem : c ∈ o.node.preorder := Node.mem_preorder_of_mem_children hc c.self_mem_preorder
    exact (Node.preorder_sublist hpath.mem_preorder).subset hmem
  domainStack_mem id r h := by
    obtain ⟨o, hpath, -, rfl⟩ := path_of_find?_ofScene h
    intro domain hdomain
    obtain ⟨n, hn, rfl⟩ := List.mem_map.mp hdomain
    refine (mem_keys_ofScene tree n.id).mpr (List.mem_map_of_mem ?_)
    exact hpath.above_subset_preorder (List.mem_of_mem_filter hn)
  order_mem id h := by
    rw [order_ofScene] at h
    exact (mem_keys_ofScene tree id).mpr
      ((tree.postorder_perm_preorder.map Node.id).mem_iff.mp h)
  root_mem := (mem_keys_ofScene tree tree.id).mpr tree.id_mem_ids
  length_eq_iff := length_ofScene_eq_iff tree
  children_first hids n hn c hc := by
    rw [order_ofScene]
    refine idxOf_lt_idxOf_of_sublist ?_ ((Node.child_sublist_postorder hn hc).map Node.id)
    exact (tree.postorder_perm_preorder.map Node.id).nodup_iff.mpr hids

end Flat

end DistanceField
