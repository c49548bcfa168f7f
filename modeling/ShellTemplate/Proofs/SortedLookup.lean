import ShellTemplate.Sorted

namespace ShellTemplate

variable {β : Type}

theorem lookup_cons_eq_ite (entry : String × β) (entries : List (String × β)) (key : String) :
    (entry :: entries).lookup key = if key = entry.1 then some entry.2 else entries.lookup key := by
  obtain ⟨name, value⟩ := entry
  rw [List.lookup_cons]
  by_cases same : key = name
  · rw [beq_iff_eq.2 same, if_pos same]
  · rw [beq_eq_false_iff_ne.2 same, if_neg same]

theorem lookup_of_mem {entries : List (String × β)} (distinct : (entries.map Prod.fst).Nodup)
    {entry : String × β} (member : entry ∈ entries) : entries.lookup entry.1 = some entry.2 := by
  induction entries with
  | nil => contradiction
  | cons first rest ih =>
    rw [List.map_cons, List.nodup_cons] at distinct
    rw [lookup_cons_eq_ite]
    rcases List.mem_cons.1 member with rfl | later
    · rw [if_pos rfl]
    · have other : entry.1 ≠ first.1 := fun same => distinct.1 (same ▸ List.mem_map_of_mem later)
      rw [if_neg other, ih distinct.2 later]

theorem mem_of_lookup {entries : List (String × β)} {key : String} {value : β} (found : entries.lookup key = some value) :
    (key, value) ∈ entries := by
  obtain ⟨before, after, rfl, _⟩ := List.lookup_eq_some_iff.1 found
  exact List.mem_append_right before List.mem_cons_self

theorem lookup_reverse_of_nodup {entries : List (String × β)} (distinct : (entries.map Prod.fst).Nodup) (key : String) :
    entries.reverse.lookup key = entries.lookup key := by
  have reversed : (entries.reverse.map Prod.fst).Nodup := by
    rw [List.map_reverse]
    exact (List.reverse_perm _).nodup_iff.2 distinct
  cases found : entries.lookup key with
  | some value => exact lookup_of_mem reversed (List.mem_reverse.2 (mem_of_lookup found))
  | none =>
    refine List.lookup_eq_none_iff.2 fun entry member => ?_
    exact List.lookup_eq_none_iff.1 found entry (List.mem_reverse.1 member)

theorem lookup_filter_key (keep : String → Bool) (entries : List (String × β)) (key : String) :
    (entries.filter fun entry => keep entry.1).lookup key = if keep key then entries.lookup key else none := by
  induction entries with
  | nil => exact (ite_self none).symm
  | cons entry rest ih =>
    rw [List.filter_cons, lookup_cons_eq_ite]
    by_cases same : key = entry.1
    · subst same
      cases kept : keep entry.1 with
      | true => rw [if_pos rfl, lookup_cons_eq_ite, if_pos rfl, if_pos rfl, if_pos rfl]
      | false => simp [ih, kept]
    · rw [if_neg same, ← ih]
      cases keep entry.1 with
      | true => rw [if_pos rfl, lookup_cons_eq_ite, if_neg same]
      | false => rfl

theorem lookup_insertSorted (entry : String × β) (entries : List (String × β)) (key : String) :
    (insertSorted Prod.fst entry entries).lookup key =
      if key = entry.1 then some entry.2 else entries.lookup key := by
  induction entries with
  | nil => rw [insertSorted, lookup_cons_eq_ite]
  | cons other rest ih =>
    unfold insertSorted
    split
    · rename_i replaced
      simp only [lookup_cons_eq_ite, replaced]
      split <;> rfl
    · rename_i differ
      split
      · rw [lookup_cons_eq_ite]
      · simp only [lookup_cons_eq_ite, ih]
        by_cases same : key = entry.1
        · rw [if_pos same, if_pos same, if_neg (same ▸ differ)]
        · rw [if_neg same, if_neg same]

namespace SortedList

/-- Values by key. -/
abbrev Table (β : Type) := SortedList (String × β) Prod.fst

theorem lookup_insert (table : Table β) (entry : String × β) (key : String) :
    (table.insert entry).toList.lookup key = if key = entry.1 then some entry.2 else table.toList.lookup key :=
  lookup_insertSorted entry table.toList key

/-- The last of the new entries counts, and without one the old entry. -/
theorem lookup_foldl_insert (entries : List (String × β)) (table : Table β) (key : String) :
    (entries.foldl insert table).toList.lookup key = (entries.reverse.lookup key).or (table.toList.lookup key) := by
  induction entries generalizing table with
  | nil => rfl
  | cons entry rest ih =>
    rw [List.foldl_cons, ih, lookup_insert, List.reverse_cons, List.lookup_append, Option.or_assoc,
      lookup_cons_eq_ite]
    congr 1
    split <;> rfl

theorem lookup_ofList (entries : List (String × β)) (key : String) :
    (ofList entries : Table β).toList.lookup key = entries.reverse.lookup key := by
  rw [ofList, lookup_foldl_insert]
  exact Option.or_none

theorem nodup_keys (table : Table β) : (table.toList.map Prod.fst).Nodup := by
  refine List.pairwise_map.2 (table.ordered.imp fun less same => ?_)
  exact absurd less (same ▸ String.lt_irrefl _)

end SortedList

end ShellTemplate
