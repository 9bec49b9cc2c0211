import Mathlib
import DistanceField.Flat.Basic

/-!
# Tables of records

A table is built by inserting records one after the other. Its keys are the identifiers of the
records, each once, and under a key stands the last record that has it.
-/

namespace DistanceField.Flat

variable {α : Type}

/-- The table of a list of records; the last record of an identifier counts. -/
def table (rs : List (Record α)) : List (String × Record α) :=
  rs.foldl (fun table r => insert r.id r table) []

/-- The keys of a table. -/
def keys (table : List (String × Record α)) : List String := table.map Prod.fst

@[simp] lemma keys_cons (key : String) (r : Record α) (rest : List (String × Record α)) :
    keys ((key, r) :: rest) = key :: keys rest := rfl

lemma keys_insert (id : String) (r : Record α) (table : List (String × Record α)) :
    keys (insert id r table) = if id ∈ keys table then keys table else keys table ++ [id] := by
  induction table with
  | nil => rfl
  | cons entry rest ih =>
    obtain ⟨key, s⟩ := entry
    by_cases hkey : key = id
    · simp [insert, hkey]
    · have hne : ¬ id = key := fun h => hkey h.symm
      rw [insert, if_neg hkey, keys_cons, keys_cons, ih]
      by_cases hmem : id ∈ keys rest
      · rw [if_pos hmem, if_pos (List.mem_cons_of_mem key hmem)]
      · rw [if_neg hmem, if_neg (List.not_mem_cons_of_ne_of_not_mem hne hmem)]
        rfl

lemma lookup_insert (id : String) (r : Record α) (table : List (String × Record α))
    (other : String) :
    (insert id r table).lookup other = if other = id then some r else table.lookup other := by
  induction table with
  | nil =>
    rw [insert, List.lookup_cons]
    split <;> simp_all
  | cons entry rest ih =>
    obtain ⟨key, s⟩ := entry
    by_cases hkey : key = id
    · subst hkey
      simp only [insert, if_true, List.lookup_cons]
      split <;> simp_all
    · simp only [insert, if_neg hkey, List.lookup_cons, ih]
      by_cases hother : other = key
      · subst hother
        simp [hkey]
      · simp [beq_false_of_ne hother]

lemma table_concat (rs : List (Record α)) (r : Record α) :
    table (rs ++ [r]) = insert r.id r (table rs) := by
  simp [table, List.foldl_append]

lemma mem_keys_table (rs : List (Record α)) (id : String) :
    id ∈ keys (table rs) ↔ id ∈ rs.map Record.id := by
  induction rs using List.reverseRecOn with
  | nil => rfl
  | append_singleton rs r ih =>
    rw [table_concat, keys_insert, List.map_append, List.mem_append]
    split_ifs with h
    · rw [ih]
      constructor
      · exact Or.inl
      · rintro (hid | hid)
        · exact hid
        · obtain rfl : id = r.id := by simpa using hid
          exact ih.mp h
    · rw [List.mem_append, ih]
      rfl

lemma nodup_keys_table (rs : List (Record α)) : (keys (table rs)).Nodup := by
  induction rs using List.reverseRecOn with
  | nil => exact List.nodup_nil
  | append_singleton rs r ih =>
    rw [table_concat, keys_insert]
    split_ifs with h
    · exact ih
    · exact List.nodup_append'.mpr ⟨ih, List.nodup_singleton _, by simpa using h⟩

/-- The last record of an identifier counts. -/
lemma lookup_table (rs : List (Record α)) (id : String) :
    (table rs).lookup id = rs.reverse.find? (·.id == id) := by
  induction rs using List.reverseRecOn with
  | nil => rfl
  | append_singleton rs r ih =>
    rw [table_concat, lookup_insert, List.reverse_append, List.reverse_singleton,
      List.singleton_append, List.find?_cons, ih]
    by_cases h : id = r.id
    · simp [h]
    · rw [if_neg h, beq_false_of_ne (Ne.symm h)]

/-- Keys are distinct, so every entry of a table can be found. -/
lemma lookup_of_mem_table {rs : List (Record α)} {id : String} {r : Record α}
    (h : (id, r) ∈ table rs) : (table rs).lookup id = some r := by
  cases hfind : (table rs).lookup id with
  | none =>
    have habsent := List.lookup_eq_none_iff.mp hfind (id, r) h
    simp at habsent
  | some s =>
    obtain ⟨before, after, hsplit, -⟩ := List.lookup_eq_some_iff.mp hfind
    have hmem : (id, s) ∈ table rs := by
      rw [hsplit]
      exact List.mem_append_right _ List.mem_cons_self
    have heq : (id, r) = (id, s) := List.inj_on_of_nodup_map (nodup_keys_table rs) h hmem rfl
    rw [(Prod.mk.inj heq).2]

/-- Records that are taken down one after the other make up a table and an order. -/
lemma foldl_add (rs : List (Record α)) :
    rs.foldl add {} = { records := table rs, order := rs.map Record.id } := by
  induction rs using List.reverseRecOn with
  | nil => rfl
  | append_singleton rs r ih =>
    rw [List.foldl_concat, ih, add, table_concat, List.map_append]
    rfl

/-- A table has one entry for each record exactly if no identifier occurs twice. -/
lemma length_table_eq_iff (rs : List (Record α)) :
    (table rs).length = rs.length ↔ (rs.map Record.id).Nodup := by
  -- the keys are the identifiers without repetitions, in some order
  have hperm : (keys (table rs)).Perm (rs.map Record.id).dedup := by
    refine (List.perm_ext_iff_of_nodup (nodup_keys_table rs) (List.nodup_dedup _)).mpr ?_
    intro id
    rw [mem_keys_table, List.mem_dedup]
  have hlength : (table rs).length = (rs.map Record.id).dedup.length := by
    rw [← hperm.length_eq, keys, List.length_map]
  rw [hlength, ← List.dedup_eq_self]
  constructor
  · intro h
    exact (List.dedup_sublist _).eq_of_length (by rw [h, List.length_map])
  · intro h
    rw [h, List.length_map]

end DistanceField.Flat
