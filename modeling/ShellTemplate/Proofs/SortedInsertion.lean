import ShellTemplate.Sorted

namespace ShellTemplate

theorem mem_insertSorted_iff {α κ : Type} [LT κ] [DecidableLT κ] [DecidableEq κ] {key : α → κ} {x y : α} {xs : List α}
    (apart : ∀ z ∈ xs, key z = key x → z = x) :
    y ∈ insertSorted key x xs ↔ y = x ∨ y ∈ xs := by
  refine ⟨mem_insertSorted, fun member => ?_⟩
  induction xs with
  | nil => simpa [insertSorted] using member
  | cons z rest ih =>
    simp only [insertSorted]
    by_cases same : key x = key z
    · rw [if_pos same]
      have equal : z = x := apart z List.mem_cons_self same.symm
      simpa [equal] using member
    · rw [if_neg same]
      by_cases less : key x < key z
      · rw [if_pos less]
        exact List.mem_cons.2 member
      · rw [if_neg less]
        rcases member with rfl | member
        · exact List.mem_cons_of_mem _ (ih (fun w inside => apart w (List.mem_cons_of_mem _ inside)) (Or.inl rfl))
        · rcases List.mem_cons.1 member with rfl | later
          · exact List.mem_cons_self
          · exact List.mem_cons_of_mem _ (ih (fun w inside => apart w (List.mem_cons_of_mem _ inside)) (Or.inr later))

section

variable {α : Type} {key : α → Nat}

theorem insertSorted_rising (x : α) {xs : List α} (rising : xs.Pairwise fun y z => key y < key z) :
    (insertSorted key x xs).Pairwise fun y z => key y < key z := by
  induction xs with
  | nil => simp [insertSorted]
  | cons y rest ih =>
    obtain ⟨head, tail⟩ := List.pairwise_cons.1 rising
    simp only [insertSorted]
    by_cases same : key x = key y
    · rw [if_pos same]
      exact List.pairwise_cons.2 ⟨fun z member => same ▸ head z member, tail⟩
    · rw [if_neg same]
      by_cases less : key x < key y
      · rw [if_pos less]
        refine List.pairwise_cons.2 ⟨fun z member => ?_, rising⟩
        rcases List.mem_cons.1 member with rfl | later
        · exact less
        · exact Nat.lt_trans less (head z later)
      · rw [if_neg less]
        refine List.pairwise_cons.2 ⟨fun z member => ?_, ih tail⟩
        rcases mem_insertSorted member with rfl | later
        · omega
        · exact head z later

/-- Where the keys rise, no two elements share one. -/
theorem eq_of_rising {xs : List α} {x y : α} (rising : xs.Pairwise fun y z => key y < key z) (first : x ∈ xs)
    (second : y ∈ xs) (same : key x = key y) : x = y := by
  obtain ⟨i, boundI, rfl⟩ := List.mem_iff_getElem.1 first
  obtain ⟨j, boundJ, rfl⟩ := List.mem_iff_getElem.1 second
  rcases Nat.lt_trichotomy i j with less | rfl | more
  · have order := List.pairwise_iff_getElem.1 rising i j boundI boundJ less
    omega
  · rfl
  · have order := List.pairwise_iff_getElem.1 rising j i boundJ boundI more
    omega

/-- Elements of a list with rising keys that are put in one after the other end up sorted, and none is
lost. -/
theorem foldl_insertSorted {all placed xs : List α} (rising : all.Pairwise fun y z => key y < key z)
    (inside : ∀ x ∈ placed ++ xs, x ∈ all) (sorted : placed.Pairwise fun y z => key y < key z) :
    (xs.foldl (fun placed x => insertSorted key x placed) placed).Pairwise (fun y z => key y < key z) ∧
      ∀ y, y ∈ xs.foldl (fun placed x => insertSorted key x placed) placed ↔ y ∈ placed ∨ y ∈ xs := by
  induction xs generalizing placed with
  | nil => exact ⟨sorted, by simp⟩
  | cons x xs ih =>
    have apart : ∀ z ∈ placed, key z = key x → z = x := fun z member =>
      eq_of_rising rising (inside z (List.mem_append_left _ member)) (inside x (by simp))
    have members (y : α) := @mem_insertSorted_iff α Nat _ _ _ key x y placed apart
    rw [List.foldl_cons]
    obtain ⟨order, final⟩ := @ih (insertSorted key x placed) (fun y member => inside y (by
      rw [List.mem_append, members] at member
      simp only [List.mem_append, List.mem_cons]
      rcases member with (same | before) | after
      · exact Or.inr (Or.inl same)
      · exact Or.inl before
      · exact Or.inr (Or.inr after))) (insertSorted_rising x sorted)
    refine ⟨order, fun y => ?_⟩
    rw [final, members, List.mem_cons, @or_comm (y = x), or_assoc]

theorem eq_of_rising_of_mem_iff {xs ys : List α} (first : xs.Pairwise fun y z => key y < key z)
    (second : ys.Pairwise fun y z => key y < key z) (same : ∀ x, x ∈ xs ↔ x ∈ ys) : xs = ys := by
  induction xs generalizing ys with
  | nil => exact (List.eq_nil_iff_forall_not_mem.2 fun x member => by simpa using (same x).2 member).symm
  | cons x xs ih =>
    cases ys with
    | nil => simpa using (same x).1 List.mem_cons_self
    | cons y ys =>
      obtain ⟨leastX, tailX⟩ := List.pairwise_cons.1 first
      obtain ⟨leastY, tailY⟩ := List.pairwise_cons.1 second
      have equal : x = y := by
        rcases List.mem_cons.1 ((same x).1 List.mem_cons_self) with equal | later
        · exact equal
        · rcases List.mem_cons.1 ((same y).2 List.mem_cons_self) with equal | last
          · exact equal.symm
          · have below := leastX y last
            have above := leastY x later
            omega
      subst equal
      refine congrArg (x :: ·) (ih tailX tailY fun z => ?_)
      have members := same z
      rw [List.mem_cons, List.mem_cons] at members
      constructor
      · intro inside
        refine (members.1 (Or.inr inside)).resolve_left ?_
        rintro rfl
        exact absurd (leastX z inside) (Nat.lt_irrefl _)
      · intro inside
        refine (members.2 (Or.inr inside)).resolve_left ?_
        rintro rfl
        exact absurd (leastY z inside) (Nat.lt_irrefl _)

end

end ShellTemplate
