import Mathlib.Algebra.BigOperators.Group.Finset.Basic
import Mathlib.Data.List.DropRight
import ShellTemplate.Proofs.SessionRuns

namespace ShellTemplate

theorem length_rtake_le {α : Type} (xs : List α) (room : Nat) : (xs.rtake room).length ≤ room := by
  rw [List.rtake, List.length_drop]
  omega

/-- What there is no room for among the older entries is left out in the end. -/
theorem rtake_append_rtake {α : Type} (xs ys : List α) (room : Nat) :
    (xs.rtake room ++ ys).rtake room = (xs ++ ys).rtake room := by
  simp only [List.rtake_eq_reverse_take_reverse, List.reverse_append, List.reverse_reverse, List.take_append, List.take_take]
  rw [Nat.min_eq_left (Nat.sub_le ..)]

theorem Recent.entries_push_of_rtake {α : Type} {recent : Recent α} {log : List α}
    (last : recent.entries = log.rtake recent.capacity) (entry : α) :
    (recent.push entry).entries = (log ++ [entry]).rtake recent.capacity := by
  obtain ⟨room, full⟩ := Nat.exists_eq_add_of_lt recent.capacity_pos
  rw [Nat.zero_add] at full
  have length : recent.size = min log.length (room + 1) := by
    rw [size, last, full, List.rtake, List.length_drop]
    omega
  change recent.entries.drop (recent.size + 1 - recent.capacity) ++ [entry] = _
  rw [last, length, full, List.rtake_concat_succ, List.rtake, List.rtake, List.drop_drop]
  congr 2
  omega

namespace Timeline

variable {α : Type}

/-- The timeline keeps the last entries of the log of each id that has one, as many as there is room for. -/
def Keeps (t : Timeline α) (capacity : Nat) (log : String → List α) : Prop :=
  ∀ id, (t.toList.lookup id).map (fun recent => (recent.capacity, recent.entries)) =
    if log id = [] then none else some (max capacity 1, (log id).rtake (max capacity 1))

variable {t : Timeline α} {capacity : Nat} {log later : String → List α}

theorem keeps_empty (capacity : Nat) : Keeps ({} : Timeline α) capacity fun _ => [] := fun _ => rfl

theorem Keeps.congr (keeps : Keeps t capacity log) (same : ∀ id, later id = log id) : Keeps t capacity later := by
  intro id
  rw [same]
  exact keeps id

theorem Keeps.lookup_eq_none (keeps : Keeps t capacity log) {id : String} (empty : log id = []) :
    t.toList.lookup id = none := by
  have kept := keeps id
  rw [if_pos empty] at kept
  exact Option.map_eq_none_iff.1 kept

theorem Keeps.exists_lookup (keeps : Keeps t capacity log) {id : String} (entered : log id ≠ []) :
    ∃ recent, t.toList.lookup id = some recent ∧ recent.capacity = max capacity 1 ∧
      recent.entries = (log id).rtake (max capacity 1) := by
  have kept := keeps id
  rw [if_neg entered] at kept
  obtain ⟨recent, found, pair⟩ := Option.map_eq_some_iff.1 kept
  exact ⟨recent, found, (Prod.mk.inj pair).1, (Prod.mk.inj pair).2⟩

theorem Keeps.entries_eq (keeps : Keeps t capacity log) (id : String) :
    entries t id = (log id).rtake (max capacity 1) := by
  unfold entries
  by_cases empty : log id = []
  · rw [keeps.lookup_eq_none empty, empty, List.rtake_nil]
    rfl
  · obtain ⟨recent, found, _, last⟩ := keeps.exists_lookup empty
    rw [found, ← last]
    rfl

theorem Keeps.push (keeps : Keeps t capacity log) {id : String} {entry : α} (grows : later id = log id ++ [entry])
    (others : ∀ other, other ≠ id → later other = log other) : Keeps (push t capacity id entry) capacity later := by
  intro other
  rw [Timeline.push, SortedList.lookup_insert]
  by_cases same : other = id
  · subst same
    rw [if_pos rfl, grows, if_neg (List.concat_ne_nil _ _)]
    have last : ((t.toList.lookup other).getD (.ofCapacity capacity)).capacity = max capacity 1 ∧
        ((t.toList.lookup other).getD (.ofCapacity capacity)).entries = (log other).rtake (max capacity 1) := by
      by_cases empty : log other = []
      · rw [keeps.lookup_eq_none empty, empty, List.rtake_nil]
        exact ⟨rfl, rfl⟩
      · obtain ⟨recent, found, room, last⟩ := keeps.exists_lookup empty
        rw [found]
        exact ⟨room, last⟩
    have pushed := Recent.entries_push_of_rtake (last.1 ▸ last.2) entry
    rw [last.1] at pushed
    exact congrArg some (Prod.ext last.1 pushed)
  · rw [if_neg same, others other same]
    exact keeps other

theorem Keeps.clear (keeps : Keeps t capacity log) {id? : Option String}
    (forgets : ∀ id, later id = if id?.all (· == id) then [] else log id) : Keeps (clear t id?) capacity later := by
  intro id
  rw [forgets]
  cases id? with
  | none => rfl
  | some gone =>
    have kept := lookup_filter_key (· != gone) t.toList id
    change (List.lookup id (t.toList.filter fun entry => entry.1 != gone)).map _ = _
    rw [kept]
    by_cases same : gone = id
    · simp [same]
    · simpa [same, Ne.symm same] using keeps id

/-- The ids that have entries. -/
def ids (t : Timeline α) : Finset String :=
  (t.toList.map Prod.fst).toFinset

theorem Keeps.mem_ids_iff (keeps : Keeps t capacity log) {id : String} : id ∈ ids t ↔ log id ≠ [] := by
  rw [ids, List.mem_toFinset]
  have entered : (t.toList.lookup id).isSome = true ↔ id ∈ t.toList.map Prod.fst := by
    simp [List.lookup_isSome_iff]
  rw [← entered]
  by_cases empty : log id = []
  · simp [keeps.lookup_eq_none empty, empty]
  · obtain ⟨recent, found, _⟩ := keeps.exists_lookup empty
    simp [found, empty]

theorem card_ids (t : Timeline α) : (ids t).card = t.toList.length := by
  rw [ids, List.toFinset_card_of_nodup (SortedList.nodup_keys t), List.length_map]

theorem sum_ids (t : Timeline α) : ∑ id ∈ ids t, (entries t id).length = total t := by
  have one (stored : String × Recent α) (member : stored ∈ t.toList) : (entries t stored.1).length = stored.2.size := by
    rw [entries, lookup_of_mem (SortedList.nodup_keys t) member]
    rfl
  rw [ids, List.sum_toFinset _ (SortedList.nodup_keys t), List.map_map, List.map_congr_left (g := fun stored => stored.2.size) one,
    List.sum_eq_foldr, List.foldr_map]
  rfl

end Timeline

end ShellTemplate
