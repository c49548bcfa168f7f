import ShellTemplate.Text.Blank
import ShellTemplate.Text.Names

namespace ShellTemplate.Text

theorem takeWhile_run {p : Char → Bool} {run rest : List Char} (inside : ∀ c ∈ run, p c = true)
    (stop : rest.head?.any p = false) : (run ++ rest).takeWhile p = run := by
  rw [List.takeWhile_append_of_pos inside]
  cases rest with
  | nil => simp
  | cons c rest => simp_all

theorem dropWhile_run {p : Char → Bool} {run rest : List Char} (inside : ∀ c ∈ run, p c = true)
    (stop : rest.head?.any p = false) : (run ++ rest).dropWhile p = rest := by
  rw [List.dropWhile_append_of_pos inside]
  cases rest with
  | nil => rfl
  | cons c rest => simp_all

/-- Where a character does not occur, a run up to it goes on. -/
theorem bne_of_not_mem {c : Char} {cs : List Char} (outside : c ∉ cs) : ∀ d ∈ cs, (d != c) = true :=
  fun _ member => bne_iff_ne.2 fun same => outside (same ▸ member)

theorem isNameChar_of_isIdentifier {name : List Char} (identifier : isIdentifier name = true) :
    ∀ c ∈ name, isNameChar c = true := by
  cases name with
  | nil => simp
  | cons c rest =>
    simp only [isIdentifier, Bool.and_eq_true, List.all_eq_true] at identifier
    intro d member
    rcases List.mem_cons.1 member with rfl | later
    · simp [isNameChar, Char.isAlphanum, identifier.1]
    · exact identifier.2 d later

theorem toNat_of_isAlpha {c : Char} (alpha : c.isAlpha = true) :
    (65 ≤ c.toNat ∧ c.toNat ≤ 90) ∨ (97 ≤ c.toNat ∧ c.toNat ≤ 122) := by
  rcases Bool.or_eq_true_iff.1 alpha with upper | lower
  · obtain ⟨low, high⟩ := of_decide_eq_true upper
    exact Or.inl ⟨low, high⟩
  · obtain ⟨low, high⟩ := Bool.and_eq_true_iff.1 lower
    exact Or.inr ⟨of_decide_eq_true low, of_decide_eq_true high⟩

theorem not_alpha_of_isBlank {c : Char} (blank : isBlank c = true) : c.isAlpha = false := by
  rw [Bool.eq_false_iff]
  intro alpha
  have letter := toNat_of_isAlpha alpha
  simp only [isBlank, Bool.or_eq_true, Bool.and_eq_true, decide_eq_true_eq, beq_iff_eq] at blank
  omega

theorem not_blank_of_isNameChar {c : Char} (inside : isNameChar c = true) : isBlank c = false := by
  cases blank : isBlank c with
  | false => rfl
  | true =>
    simp only [isNameChar, Char.isAlphanum, not_alpha_of_isBlank blank, Bool.false_or, Bool.or_eq_true,
      beq_iff_eq] at inside
    rcases inside with (digit | rfl) | rfl
    · simp only [Char.isDigit, Bool.and_eq_true, decide_eq_true_eq] at digit
      simp only [isBlank, Char.toNat, Bool.or_eq_true, Bool.and_eq_true, decide_eq_true_eq, beq_iff_eq] at blank
      have low : 48 ≤ c.val.toNat := digit.1
      have high : c.val.toNat ≤ 57 := digit.2
      omega
    · exact absurd blank (by decide)
    · exact absurd blank (by decide)

theorem contains_distinct {α : Type} [BEq α] [LawfulBEq α] (xs : List α) (x : α) :
    (distinct xs).contains x = xs.contains x := by
  have kept (ys : List α) :
      (xs.foldl (fun kept x => if kept.contains x then kept else kept ++ [x]) ys).contains x =
        (ys.contains x || xs.contains x) := by
    induction xs generalizing ys with
    | nil => simp
    | cons y xs ih =>
      rw [List.foldl_cons, ih]
      split
      · rename_i member
        by_cases same : x = y
        · simp_all
        · simp [same]
      · simp only [List.contains_append, List.contains_cons, List.contains_nil, Bool.or_false, Bool.or_assoc]
  exact kept []

theorem mem_distinct_iff {α : Type} [BEq α] [LawfulBEq α] {xs : List α} {x : α} : x ∈ distinct xs ↔ x ∈ xs := by
  rw [← List.contains_iff_mem, contains_distinct, List.contains_iff_mem]

theorem distinct_eq_nil_iff {α : Type} [BEq α] [LawfulBEq α] {xs : List α} : distinct xs = [] ↔ xs = [] := by
  simp only [List.eq_nil_iff_forall_not_mem, mem_distinct_iff]

theorem nodup_distinct {α : Type} [BEq α] [LawfulBEq α] (xs : List α) : (distinct xs).Nodup := by
  have kept (ys : List α) (once : ys.Nodup) :
      (xs.foldl (fun kept x => if kept.contains x then kept else kept ++ [x]) ys).Nodup := by
    induction xs generalizing ys with
    | nil => exact once
    | cons x xs ih =>
      rw [List.foldl_cons]
      split
      · exact ih ys once
      · rename_i new
        refine ih _ (List.nodup_append.2 ⟨once, List.pairwise_singleton _ x, ?_⟩)
        rintro y member _ (_ | ⟨_, ⟨⟩⟩) rfl
        exact new (List.contains_iff_mem.2 member)
  exact kept [] List.nodup_nil

theorem distinct_of_nodup {α : Type} [BEq α] [LawfulBEq α] {xs : List α} (apart : xs.Nodup) : distinct xs = xs := by
  have kept (ys : List α) (once : (ys ++ xs).Nodup) :
      xs.foldl (fun kept x => if kept.contains x then kept else kept ++ [x]) ys = ys ++ xs := by
    induction xs generalizing ys with
    | nil => exact (List.append_nil ys).symm
    | cons x xs ih =>
      rw [List.append_cons] at once ⊢
      have new : ys.contains x = false := by
        have other := (List.nodup_append.1 (List.nodup_append.1 once).1).2.2
        simpa using fun member => other x member x (List.mem_singleton.2 rfl) rfl
      rw [List.foldl_cons, new, if_neg Bool.false_ne_true]
      exact ih (List.nodup_cons.1 apart).2 _ once
  exact kept [] apart

end ShellTemplate.Text
