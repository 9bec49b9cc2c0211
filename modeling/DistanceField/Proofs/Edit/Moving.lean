import Mathlib
import DistanceField.Proofs.Edit.Validity

/-!
# Moving a node

A move removes a node and inserts it again, so what it does is put together from what the two do.
The insertion is into the tree that is left by the removal: a displacement that is full may have
room once one of its children is on the way out, and a target keeps its identifier but not always
its children.

An operation that is moved inside a shape wraps it, and its own children are dropped.
-/

namespace DistanceField.Node

variable {α : Type}

/-! ### What is asked of a move -/

/-- Identifiers between which nothing can be moved, wherever it is to be put. -/
def Blocked (tree : Node α) (id target : String) : Prop :=
  id = target ∨ id ∉ tree.ids ∨ target ∉ tree.ids ∨
    ∃ dragged ∈ tree.preorder, dragged.id = id ∧ target ∈ dragged.ids

/-- An operation is to be put inside a shape. -/
def Wraps (tree : Node α) (id target : String) (place : Place) : Prop :=
  place = .inside ∧ (∃ goal ∈ tree.preorder, goal.id = target ∧ goal.isPrimitive = true) ∧
    ∃ dragged ∈ tree.preorder, dragged.id = id ∧ dragged.isPrimitive = false

/-- A node stands at a place relative to a target. -/
def Stands (tree : Node α) (id target : String) : Place → Prop
  | .before => ∃ parent ∈ tree.preorder, [id, target] <:+: parent.children.map Node.id
  | .after => ∃ parent ∈ tree.preorder, [target, id] <:+: parent.children.map Node.id
  | .inside => ∃ parent ∈ tree.preorder, parent.id = target ∧ [id] <:+ parent.children.map Node.id

lemma wraps_iff {tree dragged goal : Node α} {id target : String} {place : Place}
    (h : tree.ids.Nodup) (hdragged : tree.find? id = some dragged)
    (hgoal : tree.find? target = some goal) :
    tree.Wraps id target place ↔
      place = .inside ∧ goal.isPrimitive = true ∧ ¬ dragged.isPrimitive = true := by
  rw [Wraps, exists_mem_id_iff h hgoal, exists_mem_id_iff h hdragged, Bool.not_eq_true]

lemma not_blocked_of_move? {tree new : Node α} {id target : String} {place : Place}
    (h : tree.ids.Nodup) (hnew : tree.move? id target place = some new) :
    ¬ tree.Blocked id target := by
  obtain ⟨dragged, goal, hdragged, hgoal, hne, hbelow, -, -⟩ := move?_eq_some hnew
  obtain ⟨hmem, hid⟩ := (find?_eq_some_iff h).mp hdragged
  obtain ⟨hgoalmem, hgoalid⟩ := (find?_eq_some_iff h).mp hgoal
  rintro (heq | habsent | habsent | ⟨other, hother, hotherid, htarget⟩)
  · exact hne heq
  · exact habsent (hid ▸ List.mem_map_of_mem hmem)
  · exact habsent (hgoalid ▸ List.mem_map_of_mem hgoalmem)
  · obtain rfl := eq_of_id_eq h hother hmem (hotherid.trans hid.symm)
    exact find?_eq_none_iff.mp hbelow htarget

/-- A move that is not blocked goes on with the tree that is left without the node. -/
lemma move?_of_not_blocked {tree : Node α} {id target : String} (h : tree.ids.Nodup)
    (hfree : ¬ tree.Blocked id target) :
    ∃ (dragged goal : Node α) (way : List (Level α)) (level : Level α),
      tree.find? id = some dragged ∧ tree.find? target = some goal ∧ target ∉ dragged.ids ∧
      tree = plug way (level.fill dragged) ∧
      tree.delete id = .replaced (plug way level.close) ∧ ∀ place,
        (tree.Wraps id target place →
          tree.move? id target place = (plug way level.close).wrap? target dragged) ∧
        (¬ tree.Wraps id target place →
          tree.move? id target place = (plug way level.close).insert? target dragged place) := by
  simp only [Blocked, not_or, not_not, not_exists, not_and] at hfree
  obtain ⟨hne, hidmem, htargetmem, hbelow⟩ := hfree
  obtain ⟨dragged, hmem, rfl⟩ := List.mem_map.mp hidmem
  obtain ⟨goal, hgoalmem, rfl⟩ := List.mem_map.mp htargetmem
  have hdragged := (find?_eq_some_iff h).mpr ⟨hmem, rfl⟩
  have hgoal := (find?_eq_some_iff h).mpr ⟨hgoalmem, rfl⟩
  have hoff := hbelow dragged hmem rfl
  -- every target is below the root, so the root is never what is moved
  have hroot : tree.id ≠ dragged.id := by
    intro heq
    obtain rfl := eq_of_id_eq h tree.self_mem_preorder hmem heq
    exact hoff htargetmem
  obtain ⟨way, level, htree, hdelete⟩ := exists_delete_of_find? h hdragged hroot
  have hremove := (remove?_of_delete_eq hdelete).2
  refine ⟨dragged, goal, way, level, hdragged, hgoal, hoff, htree, hdelete, fun place => ?_⟩
  have heq : tree.move? dragged.id goal.id place
      = if place = .inside ∧ goal.isPrimitive = true ∧ ¬ dragged.isPrimitive = true then
          (plug way level.close).wrap? goal.id dragged
        else (plug way level.close).insert? goal.id dragged place := by
    rw [move?, hdragged, hgoal, hremove]
    simp [hne, hroot, find?_eq_none_iff.mpr hoff]
  rw [wraps_iff h hdragged hgoal, heq]
  exact ⟨fun hwraps => if_pos hwraps, fun hwraps => if_neg hwraps⟩

/-! ### What a move does -/

/-- A node that is moved to a place: it is the node that it was, and so is the tree around it. -/
structure Moved (tree : Node α) (id target : String) (place : Place) (new : Node α) : Prop where
  find?_eq : new.find? id = tree.find? id
  delete_eq : new.delete id = tree.delete id
  stands : new.Stands id target place

/-- An operation that is put around a shape: it has the shape as its only child, and no other node
is lost than those that were below it. -/
def Wrapped (tree : Node α) (id target : String) (new : Node α) : Prop :=
  ∃ dragged goal base, tree.find? id = some dragged ∧ tree.find? target = some goal ∧
    tree.delete id = .replaced base ∧ base.Substituted goal dragged [goal] new ∧
    (new.outline ++ dragged.children.flatMap outline).Perm tree.outline

lemma Gap.stands {target : String} {place : Place} {way : List (Level α)} {level : Level α}
    (h : Gap target place way level) (node : Node α) :
    (plug way (level.fill node)).Stands node.id target place := by
  have hparent : level.fill node ∈ (plug way (level.fill node)).preorder :=
    mem_preorder_plug (self_mem_preorder _)
  cases h with
  | @before way info op elder younger goal hid _ _ =>
    refine ⟨_, hparent, elder.map Node.id, younger.map Node.id, ?_⟩
    simp [Level.fill, hid]
  | @after way info op elder younger goal hid _ _ =>
    refine ⟨_, hparent, elder.map Node.id, younger.map Node.id, ?_⟩
    simp [Level.fill, hid]
  | @inside way info op children hid _ =>
    refine ⟨_, hparent, hid, children.map Node.id, ?_⟩
    simp [Level.fill]

/-- A node that goes into a gap is found there, and it can be removed from there. -/
lemma moved_of_insert? {tree dragged base new : Node α} {target : String} {place : Place}
    (hfind : tree.find? dragged.id = some dragged)
    (hdelete : tree.delete dragged.id = .replaced base)
    (hbase : base.ids.Nodup) (hdragged : dragged.ids.Nodup)
    (hdisjoint : base.ids.Disjoint dragged.ids)
    (hnew : base.insert? target dragged place = some new) :
    tree.Moved dragged.id target place new := by
  obtain ⟨way, level, hgap, -, rfl, rfl⟩ := exists_gap_of_insert? hnew
  have hids : (plug way (level.fill dragged)).ids.Nodup :=
    nodup_ids_plug_fill.mpr ⟨hbase, hdragged, hdisjoint⟩
  have hmem : dragged ∈ (plug way (level.fill dragged)).preorder :=
    mem_preorder_plug (mem_preorder_fill dragged.self_mem_preorder)
  refine ⟨?_, ?_, hgap.stands dragged⟩
  · rw [hfind]
    exact (find?_eq_some_iff hids).mpr ⟨hmem, rfl⟩
  · rw [hdelete]
    exact delete_plug_fill fun hmem => hdisjoint hmem dragged.id_mem_ids

/-- What refuses a node that is put back is the target, since it is still there. -/
lemma insert?_close_eq_none_iff {way : List (Level α)} {level : Level α} {n node : Node α}
    {target : String} {place : Place} (h : (plug way (level.fill n)).ids.Nodup)
    (htarget : target ∈ (plug way (level.fill n)).ids) (hoff : target ∉ n.ids) :
    (plug way level.close).insert? target node place = none ↔
      (plug way level.close).Refuses target place := by
  have hall := (ids_plug_fill_perm way level n).subset htarget
  have hpresent := (List.mem_append.mp hall).resolve_right hoff
  rw [insert?_eq_none_iff (nodup_ids_plug_fill.mp h).1, or_iff_right (not_not.mpr hpresent)]

/-- A shape is not changed by the removal of another node. -/
lemma find?_close_of_isPrimitive {way : List (Level α)} {level : Level α} {n goal : Node α}
    (h : (plug way (level.fill n)).ids.Nodup) (hgoal : goal ∈ (plug way (level.fill n)).preorder)
    (hoff : goal.id ∉ n.ids) (hshape : goal.isPrimitive = true) :
    (plug way level.close).find? goal.id = some goal := by
  have hall : goal.bare ∈ (plug way level.close).outline ++ n.outline :=
    (outline_plug_fill_perm way level n).subset (List.mem_map_of_mem hgoal)
  obtain hbare | hbare := List.mem_append.mp hall
  · obtain ⟨m, hm, heq⟩ := List.mem_map.mp hbare
    obtain rfl := eq_of_bare_eq heq hshape
    exact (find?_eq_some_iff (nodup_ids_plug_fill.mp h).1).mpr ⟨hm, rfl⟩
  · refine absurd ?_ hoff
    rw [← map_id_outline, ← id_mapChildren (fun _ => []) goal]
    exact List.mem_map_of_mem hbare

/-- Around a shape that is wrapped everything is kept, and of the operation only what was below it
is lost. -/
lemma outline_perm_of_wrap {way : List (Level α)} {level : Level α} {dragged goal new : Node α}
    (h : (plug way level.close).Substituted goal dragged [goal] new) :
    (new.outline ++ dragged.children.flatMap outline).Perm
      (plug way (level.fill dragged)).outline := by
  obtain ⟨before, after, hbase, hnew⟩ := h.outline_eq
  have hwrapped : new.outline.Perm ((plug way level.close).outline ++ [dragged.bare]) := by
    rw [hbase, hnew]
    exact List.perm_middle.trans (List.perm_append_singleton _ _).symm
  have hdragged : [dragged.bare] ++ dragged.children.flatMap outline = dragged.outline :=
    (outline_eq dragged).symm
  refine (hwrapped.append_right _).trans ?_
  rw [List.append_assoc, hdragged]
  exact (outline_plug_fill_perm way level dragged).symm

/-- A shape can be wrapped in an operation that is not above it. -/
lemma exists_wrapped {way : List (Level α)} {level : Level α} {dragged goal : Node α}
    (h : (plug way (level.fill dragged)).ids.Nodup)
    (hgoal : goal ∈ (plug way (level.fill dragged)).preorder) (hoff : goal.id ∉ dragged.ids)
    (hshape : goal.isPrimitive = true) (hop : dragged.isPrimitive = false) :
    ∃ new, (plug way level.close).wrap? goal.id dragged = some new ∧
      (plug way (level.fill dragged)).Wrapped dragged.id goal.id new := by
  have hmem : dragged ∈ (plug way (level.fill dragged)).preorder :=
    mem_preorder_plug (mem_preorder_fill dragged.self_mem_preorder)
  have hfound := find?_close_of_isPrimitive h hgoal hoff hshape
  obtain ⟨new, hnew, hsub⟩ := exists_substituted_of_wrap? hfound hop
  refine ⟨new, hnew, dragged, goal, _, ?_, ?_, delete_plug_fill (id_notMem_ids_close h), hsub,
    outline_perm_of_wrap hsub⟩
  · exact (find?_eq_some_iff h).mpr ⟨hmem, rfl⟩
  · exact (find?_eq_some_iff h).mpr ⟨hgoal, rfl⟩

/-- Where identifiers occur once, a move is rejected exactly if it is blocked or the target refuses
the node in the tree without it; otherwise it moves the node, or wraps the target. -/
theorem move?_specification {tree : Node α} (h : tree.ids.Nodup) (id target : String)
    (place : Place) :
    (tree.move? id target place = none ↔ tree.Blocked id target ∨ ¬ tree.Wraps id target place ∧
      ∃ base, tree.delete id = .replaced base ∧ base.Refuses target place) ∧
    ∀ new, tree.move? id target place = some new →
      (¬ tree.Wraps id target place → tree.Moved id target place new) ∧
      (tree.Wraps id target place → tree.Wrapped id target new) := by
  by_cases hblocked : tree.Blocked id target
  · have hnone : tree.move? id target place = none :=
      Option.eq_none_iff_forall_ne_some.mpr fun new hnew => not_blocked_of_move? h hnew hblocked
    refine ⟨iff_of_true hnone (.inl hblocked), fun new hnew => ?_⟩
    exact absurd hblocked (not_blocked_of_move? h hnew)
  · obtain ⟨dragged, goal, way, level, hdragged, hgoal, hoff, rfl, hdelete, hmove⟩ :=
      move?_of_not_blocked h hblocked
    obtain ⟨-, rfl⟩ := (find?_eq_some_iff h).mp hdragged
    obtain ⟨hgoalmem, rfl⟩ := (find?_eq_some_iff h).mp hgoal
    by_cases hwraps : (plug way (level.fill dragged)).Wraps dragged.id goal.id place
    · obtain ⟨-, hshape, hop⟩ := (wraps_iff h hdragged hgoal).mp hwraps
      obtain ⟨new, hnew, hwrapped⟩ :=
        exists_wrapped h hgoalmem hoff hshape (Bool.eq_false_iff.mpr hop)
      rw [(hmove place).1 hwraps, hnew]
      refine ⟨iff_of_false (Option.some_ne_none new) ?_, fun new' hnew' => ?_⟩
      · rintro (hb | ⟨hn, -⟩)
        · exact hblocked hb
        · exact hn hwraps
      · obtain rfl := Option.some.inj hnew'
        exact ⟨fun hn => absurd hwraps hn, fun _ => hwrapped⟩
    · rw [(hmove place).2 hwraps, insert?_close_eq_none_iff h (List.mem_map_of_mem hgoalmem) hoff]
      refine ⟨⟨fun hrefuses => .inr ⟨hwraps, _, hdelete, hrefuses⟩, ?_⟩, fun new hnew =>
        ⟨fun _ => ?_, fun hw => absurd hw hwraps⟩⟩
      · rintro (hb | ⟨-, base, hbase, hrefuses⟩)
        · exact absurd hb hblocked
        · rw [hdelete] at hbase
          exact Change.replaced.inj hbase ▸ hrefuses
      · obtain ⟨hbase, hids, hdisjoint⟩ := nodup_ids_plug_fill.mp h
        exact moved_of_insert? hdragged hdelete hbase hids hdisjoint hnew

/-- A displacement of a disc by another one, and a group that holds a disc and stands beside a
shape. -/
def crowdedScene : Node Float32 :=
  .combine "u" .union
    [.combine "d" .displace [.circle "a" .zero 1.0, .circle "b" .zero 1.0],
      .combine "g" .group [.circle "c" .zero 1.0], .circle "s" .zero 1.0]

/-- The source of a full displacement can be moved before its base, but nothing else fits in; a
group that is moved inside a shape wraps it and loses its disc. -/
theorem move?_crowdedScene :
    crowdedScene.ids.Nodup ∧
    (∃ new, crowdedScene.move? "b" "a" .before = some new ∧
      crowdedScene.Moved "b" "a" .before new) ∧
    crowdedScene.move? "s" "a" .before = none ∧
    ∃ new, crowdedScene.move? "g" "s" .inside = some new ∧ crowdedScene.Wrapped "g" "s" new := by
  have hids : crowdedScene.ids.Nodup := by decide
  have hbeside : ∀ id, ¬ crowdedScene.Wraps id "a" .before := fun id h => absurd h.1 (by decide)
  have hwraps : crowdedScene.Wraps "g" "s" .inside := by
    refine ⟨rfl, ⟨.circle "s" .zero 1.0, ?_, rfl, rfl⟩,
      ⟨.combine "g" .group [.circle "c" .zero 1.0], ?_, rfl, rfl⟩⟩
    · exact .tail _ (.tail _ (.tail _ (.tail _ (.tail _ (.tail _ (.head _))))))
    · exact .tail _ (.tail _ (.tail _ (.tail _ (.head _))))
  refine ⟨hids, ⟨_, rfl, ?_⟩, ?_, ⟨_, rfl, ?_⟩⟩
  · exact ((move?_specification hids "b" "a" .before).2 _ rfl).1 (hbeside "b")
  · refine (move?_specification hids "s" "a" .before).1.mpr (.inr ⟨hbeside "s", _, rfl, .inr ?_⟩)
    refine ⟨.combine "d" .displace [.circle "a" .zero 1.0, .circle "b" .zero 1.0], ?_, ?_, ?_⟩
    · exact .tail _ (.head _)
    · exact .head _
    · exact ⟨rfl, Nat.le_refl 2⟩
  · exact ((move?_specification hids "g" "s" .inside).2 _ rfl).2 hwraps

end DistanceField.Node
