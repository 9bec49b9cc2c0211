import Mathlib
import DistanceField.Proofs.Edit.Exchange
import DistanceField.Proofs.Edit.Kind

/-!
# Rejected edits

An edit at one place of a tree is rejected for a reason that can be read off the tree: the place is
missing, it is the root, or the node there is not of the kind that the edit needs. Where identifiers
occur once these reasons are exact, so every other edit goes through.

A session tells the two outcomes apart by version. The numbers of its versions never pass the number
of its steps, so the number that an accepted edit takes is a new one, even if the tree that it gives
equals the old one.
-/

namespace DistanceField

variable {α : Type}

namespace Node

/-! ### Exchanges -/

/-- Where identifiers occur once, an exchange is rejected only if there are no two such children. -/
lemma swapChildren?_eq_none_iff {tree : Node α} {id : String} {i j : Nat} (h : tree.ids.Nodup) :
    tree.swapChildren? id i j = none ↔ id ∉ tree.ids ∨ i = j ∨
      ∃ n ∈ tree.preorder, n.id = id ∧ (n.children.length ≤ i ∨ n.children.length ≤ j) := by
  cases hfind : tree.find? id with
  | none => simp [swapChildren?, hfind, find?_eq_none_iff.mp hfind]
  | some n =>
    rw [exists_mem_id_iff h hfind]
    obtain ⟨way, rfl, rfl, hfirst⟩ := exists_firstIn_of_find? hfind
    have hpresent : n.id ∈ (plug way n).ids :=
      List.mem_map_of_mem (mem_preorder_plug n.self_mem_preorder)
    rw [hfirst.swapChildren?_plug, or_iff_right (not_not.mpr hpresent)]
    simp only [ite_eq_right_iff, reduceCtorEq, imp_false]
    omega

/-- A child that has no sibling to change places with: the first one, or the last one. -/
def AtEnd (parent : Node α) (id : String) : Direction → Prop
  | .up => (parent.children.map Node.id).head? = some id
  | .down => (parent.children.map Node.id).getLast? = some id

lemma AtEnd.mem {parent : Node α} {id : String} {direction : Direction}
    (h : parent.AtEnd id direction) : id ∈ parent.children.map Node.id := by
  cases direction with
  | up => exact List.mem_of_head? h
  | down => exact List.mem_of_getLast? h

lemma reorder?_fill_eq_none_iff {way : List (Level α)} {level : Level α} {n : Node α}
    (h : (plug way (level.fill n)).ids.Nodup) (direction : Direction) :
    (plug way (level.fill n)).reorder? n.id direction = none ↔
      (level.fill n).AtEnd n.id direction := by
  obtain ⟨info, op, before, after⟩ := level
  have hids := nodup_childIds_fill h
  cases direction with
  | up =>
    cases before with
    | nil => exact iff_of_true (reorder?_up_first h rfl) rfl
    | cons sibling elder =>
      apply iff_of_false
      · rw [reorder?_up_eq h rfl, (firstIn_of_nodup h).swapChildren?_plug]
        simp [Level.fill]
      · intro hfirst
        have heq : sibling.id = n.id := by simpa [AtEnd, Level.fill] using hfirst
        simp [Level.fill, heq] at hids
  | down =>
    rcases List.eq_nil_or_concat' after with rfl | ⟨younger, sibling, rfl⟩
    · apply iff_of_true (reorder?_down_last h rfl)
      simp [AtEnd, Level.fill]
    · apply iff_of_false
      · rw [reorder?_down_eq h, (firstIn_of_nodup h).swapChildren?_plug]
        simp [Level.fill]
      · intro hlast
        have heq : sibling.id = n.id := by
          simpa [AtEnd, Level.fill, List.getLast?_cons] using hlast
        simp [Level.fill, heq, List.nodup_append'] at hids

/-- Where identifiers occur once, a node stays where it is only if there is nothing to move it
past. -/
lemma reorder?_eq_none_iff {tree : Node α} {id : String} {direction : Direction}
    (h : tree.ids.Nodup) :
    tree.reorder? id direction = none ↔ id ∉ tree.ids ∨ id = tree.id ∨
      ∃ parent ∈ tree.preorder, parent.AtEnd id direction := by
  have hmem : (∃ parent ∈ tree.preorder, parent.AtEnd id direction) ↔
      ∃ parent ∈ tree.preorder, id ∈ parent.children.map Node.id ∧ parent.AtEnd id direction := by
    simp only [and_iff_right_of_imp AtEnd.mem]
  rw [hmem, ← or_assoc, ← findParent?_eq_none_iff h]
  cases hfind : tree.findParent? id with
  | none => simp [reorder?, hfind]
  | some parent =>
    rw [exists_mem_childIds_iff h hfind, or_iff_right (Option.some_ne_none parent)]
    obtain ⟨way, level, n, rfl, rfl, rfl⟩ := exists_fill_of_findParent? h hfind
    exact reorder?_fill_eq_none_iff h direction

/-! ### Unfolding -/

lemma expandIn?_eq_none_iff {id : String} {ns : List (Node α)} :
    expandIn? id ns = none ↔ ∀ n ∈ ns, n.expandTo? id = none := by
  induction ns with
  | nil => simp [expandIn?]
  | cons n rest ih =>
    rw [expandIn?, List.forall_mem_cons, ← ih]
    cases n.expandTo? id <;> simp

/-- The nodes above a node can be unfolded if they can be listed. -/
lemma expandTo?_eq_none_iff {tree : Node α} {id : String} :
    tree.expandTo? id = none ↔ id ∉ tree.ids := by
  rw [← ancestors?_eq_none_iff]
  induction tree with
  | primitive info body => simp [expandTo?, ancestors?]
  | operation info op children ih =>
    rw [expandTo?, ancestors?]
    split_ifs with hid
    · simp
    · rw [Option.map_eq_none_iff, Option.map_eq_none_iff, expandIn?_eq_none_iff, ancestorsIn?_eq,
        List.findSome?_eq_none_iff]
      exact forall₂_congr ih

/-! ### All edits at one place -/

lemma delete_eq_emptied_iff {tree : Node α} {id : String} :
    tree.delete id = .emptied ↔ id = tree.id := by
  rw [delete]
  split_ifs with hroot
  · simp [hroot]
  · cases tree.remove? id <;> simp [Change.ofOption, Ne.symm hroot]

lemma delete_eq_rejected_iff {tree : Node α} {id : String} (h : tree.ids.Nodup) :
    tree.delete id = .rejected ↔ id ∉ tree.ids := by
  cases hfind : tree.find? id with
  | none =>
    have habsent := find?_eq_none_iff.mp hfind
    exact iff_of_true (delete_of_notMem habsent) habsent
  | some n =>
    obtain ⟨hn, rfl⟩ := (find?_eq_some_iff h).mp hfind
    apply iff_of_false
    · by_cases hroot : tree.id = n.id
      · simp [delete, hroot]
      · obtain ⟨way, level, -, hdelete⟩ := exists_delete_of_find? h hfind hroot
        simp [hdelete]
    · exact not_not.mpr (List.mem_map_of_mem hn)

lemma setKind?_eq_none_iff_mem {tree : Node α} {id : String} {kind : OpKind}
    (h : tree.ids.Nodup) :
    tree.setKind? id kind = none ↔ id ∉ tree.ids ∨
      ∃ n ∈ tree.preorder, n.id = id ∧ n.isPrimitive = true := by
  rw [setKind?_eq_none_iff, ← find?_eq_none_iff]
  cases hfind : tree.find? id with
  | none => simp
  | some n => simp [exists_mem_id_iff h hfind]

lemma expandAncestors?_eq_none_iff {tree : Node α} {id : String} :
    tree.expandAncestors? id = none ↔ id ∉ tree.ids ∨ id = tree.id := by
  rw [expandAncestors?]
  split_ifs with hroot
  · simp [hroot]
  · simp [expandTo?_eq_none_iff, Ne.symm hroot]

lemma ofOption_eq_rejected_iff {result : Option (Node α)} :
    Change.ofOption result = .rejected ↔ result = none := by
  cases result <;> simp [Change.ofOption]

/-- What makes a tree reject an edit at one place, for each kind of such edits. -/
structure Rejections [Scalar α] (tree : Node α) : Prop where
  update (id : String) (f : Node α → Node α) :
    (Edit.update id f).run tree = .rejected ↔ id ∉ tree.ids
  delete (id : String) : (Edit.delete id).run tree = .rejected ↔ id ∉ tree.ids
  /-- Only removing the root leaves no tree. -/
  delete_root (id : String) : (Edit.delete id).run tree = .emptied ↔ id = tree.id
  insert (target : String) (node : Node α) (place : Place) :
    (Edit.insert target node place).run tree = .rejected ↔
      target ∉ tree.ids ∨ tree.Refuses target place
  swap (id : String) (i j : Nat) :
    (Edit.swap id i j).run tree = .rejected ↔ id ∉ tree.ids ∨ i = j ∨
      ∃ n ∈ tree.preorder, n.id = id ∧ (n.children.length ≤ i ∨ n.children.length ≤ j)
  reorder (id : String) (direction : Direction) :
    (Edit.reorder id direction).run tree = .rejected ↔ id ∉ tree.ids ∨ id = tree.id ∨
      ∃ parent ∈ tree.preorder, parent.AtEnd id direction
  setKind (id : String) (kind : OpKind) :
    (Edit.setKind id kind).run tree = .rejected ↔ id ∉ tree.ids ∨
      ∃ n ∈ tree.preorder, n.id = id ∧ n.isPrimitive = true
  expand (id : String) :
    (Edit.expand id).run tree = .rejected ↔ id ∉ tree.ids ∨ id = tree.id

lemma rejections [Scalar α] {tree : Node α} (h : tree.ids.Nodup) : tree.Rejections where
  update _ _ := ofOption_eq_rejected_iff.trans update?_eq_none_iff
  delete _ := delete_eq_rejected_iff h
  delete_root _ := delete_eq_emptied_iff
  insert _ _ _ := ofOption_eq_rejected_iff.trans (insert?_eq_none_iff h)
  swap _ _ _ := ofOption_eq_rejected_iff.trans (swapChildren?_eq_none_iff h)
  reorder _ _ := ofOption_eq_rejected_iff.trans (reorder?_eq_none_iff h)
  setKind _ _ := ofOption_eq_rejected_iff.trans (setKind?_eq_none_iff_mem h)
  expand _ := ofOption_eq_rejected_iff.trans expandAncestors?_eq_none_iff

end Node

/-! ### Versions of a session -/

namespace Session

/-- No version has a number above the number of steps. -/
def Numbered (s : Session α) : Prop :=
  ∀ v ∈ s.current :: s.earlier, v.stamp ≤ s.earlier.length

lemma Numbered.record {s : Session α} (h : s.Numbered) {v : Version α}
    (hv : v.stamp ≤ s.earlier.length + 1) : (s.record v).Numbered := by
  intro w hw
  rcases List.mem_cons.mp hw with rfl | hw
  · exact hv
  · exact (h w hw).trans (Nat.le_succ _)

lemma Numbered.hold {s : Session α} (h : s.Numbered) : s.hold.Numbered :=
  h.record ((h _ List.mem_cons_self).trans (Nat.le_succ _))

lemma Numbered.change {s : Session α} (h : s.Numbered) (c : Change α) : (s.change c).Numbered := by
  cases c with
  | rejected => exact h.hold
  | emptied => exact h.record le_rfl
  | replaced tree => exact h.record le_rfl

lemma Numbered.restore {s : Session α} (h : s.Numbered) (steps : Nat) :
    (s.restore steps).Numbered := by
  rw [Session.restore]
  cases hversion : s.version? steps with
  | none => exact h.hold
  | some v =>
    apply h.record
    have hv : v ∈ s.current :: s.earlier := List.mem_reverse.mp (List.mem_of_getElem? hversion)
    exact (h v hv).trans (Nat.le_succ _)

lemma isSame_record_iff (s : Session α) (v : Version α) :
    (s.record v).isSame = true ↔
      s.current.stamp = v.stamp ∨ s.current.scene = none ∧ v.scene = none := by
  change (decide (s.current.stamp = v.stamp) || s.current.scene.isNone && v.scene.isNone) = true ↔ _
  simp

/-- A change of a tree keeps the version exactly if it is none: any other takes a new number. -/
lemma isSame_change_iff {s : Session α} {tree : Node α} (h : s.Numbered)
    (hscene : s.scene = some tree) (c : Change α) :
    (s.change c).isSame = true ↔ c = .rejected := by
  have hcurrent : s.current.scene = some tree := hscene
  have hnew : s.current.stamp ≠ s.earlier.length + 1 :=
    Nat.ne_of_lt (Nat.lt_succ_of_le (h _ List.mem_cons_self))
  cases c with
  | rejected => simp [change, hold, isSame_record_iff]
  | emptied => simp [change, isSame_record_iff, hcurrent, hnew]
  | replaced new => simp [change, isSame_record_iff, hcurrent, hnew]

variable [Scalar α]

/-- The sessions that steps of any kind lead to, whatever edits they try. -/
inductive Arises : Session α → Prop
  | start (scene : Option (Node α)) : Arises (start scene)
  | hold {s : Session α} (hs : Arises s) : Arises s.hold
  | edit {s t : Session α} {e : Edit α} (hs : Arises s) (ht : s.edit e = .ok t) : Arises t
  | restore {s : Session α} (hs : Arises s) (steps : Nat) : Arises (s.restore steps)

lemma Arises.numbered {s : Session α} (h : s.Arises) : s.Numbered := by
  induction h with
  | start scene =>
    intro v hv
    rw [List.mem_singleton.mp hv]
    exact Nat.le_refl 0
  | hold _ ih => exact ih.hold
  | @edit s t e _ ht ih =>
    cases hrun : e.runScene s.scene with
    | error failure =>
      rw [Session.edit, hrun] at ht
      cases ht
    | ok c =>
      rw [Session.edit, hrun] at ht
      obtain rfl := Except.ok.inj ht
      exact ih.change c
  | restore _ steps ih => exact ih.restore steps

/-- Where identifiers occur once, an edit at one place is rejected exactly for its stated reasons.
In every session an edit of a tree has an outcome; a rejected one keeps the version, and any other
makes a new one. -/
theorem rejections_and_isSame_edit {tree : Node α} (h : tree.ids.Nodup) :
    tree.Rejections ∧
    ∀ s : Session α, s.Arises → s.scene = some tree → ∀ e : Edit α, ∃ t, s.edit e = .ok t ∧
      (t.isSame = true ↔ e.run tree = .rejected) ∧
      (e.run tree = .rejected → t.current = s.current) := by
  refine ⟨Node.rejections h, fun s hs hscene e => ⟨s.change (e.run tree), ?_, ?_, ?_⟩⟩
  · rw [edit, hscene]
    rfl
  · exact isSame_change_iff hs.numbered hscene (e.run tree)
  · intro hrejected
    rw [hrejected]
    rfl

/-- A full displacement takes no third child, and its base is already the first one. To put a disc
in its own place is an edit like any other. -/
theorem rejections_and_isSame_fullDisplace :
    fullDisplace.ids.Nodup ∧
    (Edit.insert "d" (.circle "e" .zero 1.0) .inside).run fullDisplace = .rejected ∧
    (Edit.reorder "a" .up).run fullDisplace = .rejected ∧
    ∃ t, (start (some fullDisplace)).edit (.update "c" fun n => n) = .ok t ∧ t.isSame = false := by
  have hids : fullDisplace.ids.Nodup := by decide
  obtain ⟨hrejections, hedit⟩ := rejections_and_isSame_edit hids
  have hmem : Node.combine "d" .displace [.circle "a" .zero 1.0, .circle "b" .zero 1.0]
      ∈ fullDisplace.preorder := .tail _ (.head _)
  refine ⟨hids, ?_, ?_, ?_⟩
  · exact (hrejections.insert _ _ .inside).mpr
      (.inr ⟨_, hmem, rfl, .inr ⟨rfl, Nat.le_refl 2⟩⟩)
  · exact (hrejections.reorder "a" .up).mpr (.inr (.inr ⟨_, hmem, rfl⟩))
  · obtain ⟨t, ht, hsame, -⟩ := hedit _ (.start _) rfl (.update "c" fun n => n)
    refine ⟨t, ht, Bool.eq_false_iff.mpr fun htrue => ?_⟩
    exact (hrejections.update "c" _).mp (hsame.mp htrue) (by decide)

end Session

end DistanceField
