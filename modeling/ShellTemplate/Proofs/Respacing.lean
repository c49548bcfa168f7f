import ShellTemplate.Proofs.LowercaseForms
import ShellTemplate.Proofs.TokenGaps
import ShellTemplate.Text.WordChar

namespace ShellTemplate

namespace Text

/-- No blank belongs to a word. -/
theorem not_wordChar_of_isBlank {c : Char} (blank : isBlank c = true) : isWordChar c = false := by
  have apart : wordRanges.toList.all fun range => wideBlanks.all fun gap => gap.blt range.1 || range.2.blt gap := by
    decide +kernel
  unfold isWordChar
  split
  · refine Bool.eq_false_iff.2 fun inside => ?_
    have named : isNameChar c = true := by
      rw [isNameChar, inside, Bool.true_or]
    rw [not_blank_of_isNameChar named] at blank
    contradiction
  · rename_i wide
    have known := (isBlank_iff_of_wide (Nat.le_of_not_lt wide)).1 blank
    rw [inRanges, ← Array.any_toList]
    refine List.any_eq_false.2 fun range inside => ?_
    have other := List.all_eq_true.1 (List.all_eq_true.1 apart range inside) _ known
    simp only [Bool.or_eq_true, Nat.blt_eq] at other
    simp only [Bool.and_eq_true, decide_eq_true_eq]
    omega

end Text

/-- Two texts with the same tokens and other blanks between them, both from the same character on. A blank that
only one of them has stands beside an operator. -/
inductive Respaced : List Char → List Char → Prop
  | nil : Respaced [] []
  | last {b gap gap'} : gap.all Text.isBlank = true → gap'.all Text.isBlank = true → Respaced (b :: gap) (b :: gap')
  | inside {b cs ds} : Respaced cs ds → Respaced (b :: cs) (b :: ds)
  | across {b c gap gap' cs ds} : gap.all Text.isBlank = true → gap'.all Text.isBlank = true →
      Text.isBlank c = false → (gap = [] ∨ gap' = [] → Operator.isMark b = true ∨ Operator.isMark c = true) →
      Respaced (c :: cs) (c :: ds) → Respaced (b :: (gap ++ c :: cs)) (b :: (gap' ++ c :: ds))

/-- A character of a word, of which no blank and no operator is one. -/
def IsSolid (p : Char → Bool) : Prop :=
  ∀ c, p c = true → Text.isBlank c = false ∧ Operator.isMark c = false

namespace Respaced

variable {cs ds : List Char}

theorem symm (related : Respaced cs ds) : Respaced ds cs := by
  induction related with
  | nil => exact .nil
  | last blank blank' => exact .last blank' blank
  | inside _ ih => exact .inside ih
  | across blank blank' solid apart _ ih => exact .across blank' blank solid (fun tight => apart tight.symm) ih

theorem head?_eq (related : Respaced cs ds) : cs.head? = ds.head? := by
  cases related <;> rfl

theorem exists_cons {c : Char} {rest : List Char} (related : Respaced (c :: rest) ds) :
    ∃ rest', ds = c :: rest' :=
  List.head?_eq_some_iff.1 related.head?_eq.symm

theorem prepend (related : Respaced cs ds) (run : List Char) : Respaced (run ++ cs) (run ++ ds) := by
  induction run with
  | nil => exact related
  | cons c run ih => exact .inside ih

/-- Behind the character with which both texts begin, the blanks may be passed over. -/
theorem dropBlanks (related : Respaced cs ds) :
    Respaced (cs.tail.dropWhile Text.isBlank) (ds.tail.dropWhile Text.isBlank) := by
  have passed {gap rest : List Char} (blank : gap.all Text.isBlank = true) :
      (gap ++ rest).dropWhile Text.isBlank = rest.dropWhile Text.isBlank :=
    List.dropWhile_append_of_pos (List.all_eq_true.1 blank)
  induction related with
  | nil => exact .nil
  | @last b gap gap' blank blank' =>
    have first := @passed gap [] blank
    have second := @passed gap' [] blank'
    rw [List.append_nil] at first second
    rw [List.tail_cons, List.tail_cons, first, second]
    exact .nil
  | @inside b cs ds related ih =>
    cases cs with
    | nil => cases related; exact .nil
    | cons c cs =>
      obtain ⟨ds, rfl⟩ := related.exists_cons
      simp only [List.tail_cons, List.dropWhile_cons] at ih ⊢
      split
      · exact ih
      · exact related
  | across blank blank' solid _ related _ =>
    rw [List.tail_cons, List.tail_cons, passed blank, passed blank', List.dropWhile_cons_of_neg (by simp [solid]),
      List.dropWhile_cons_of_neg (by simp [solid])]
    exact related

/-- A word that goes on in one text goes on in the other. -/
theorem takeWhile_tail {p : Char → Bool} (solid : IsSolid p) (related : Respaced cs ds)
    (word : cs.head?.any Operator.isMark = false) : cs.tail.takeWhile p = ds.tail.takeWhile p := by
  have stops {gap rest : List Char} (blank : gap.all Text.isBlank = true)
      (other : gap = [] → rest.head?.any p = false) : (gap ++ rest).takeWhile p = [] := by
    cases gap with
    | nil => exact @Text.takeWhile_run p [] rest (by simp) (other rfl)
    | cons c gap =>
      have isBlank := (Bool.and_eq_true_iff.1 blank).1
      refine List.takeWhile_cons_of_neg fun inside => ?_
      rw [(solid c inside).1] at isBlank
      contradiction
  induction related with
  | nil => rfl
  | @last b gap gap' blank blank' =>
    have first := @stops gap [] blank fun _ => rfl
    have second := @stops gap' [] blank' fun _ => rfl
    rw [List.append_nil] at first second
    rw [List.tail_cons, List.tail_cons, first, second]
  | @inside b cs ds related ih =>
    cases cs with
    | nil => cases related; rfl
    | cons c cs =>
      obtain ⟨ds, rfl⟩ := related.exists_cons
      simp only [List.tail_cons, List.takeWhile_cons] at ih ⊢
      split
      · rename_i inside
        rw [ih (solid c inside).2]
      · rfl
  | @across b c gap gap' cs ds blank blank' _ apart _ _ =>
    have other (tight : gap = [] ∨ gap' = []) : p c = false := by
      refine Bool.eq_false_iff.2 fun inside => ?_
      rcases apart tight with mark | mark
      · rw [show Operator.isMark b = false from word] at mark
        contradiction
      · rw [(solid c inside).2] at mark
        contradiction
    rw [List.tail_cons, List.tail_cons, stops blank fun none => by simp [other (Or.inl none)],
      stops blank' fun none => by simp [other (Or.inr none)]]

theorem takeWhile {p : Char → Bool} (solid : IsSolid p) (related : Respaced cs ds) : cs.takeWhile p = ds.takeWhile p := by
  cases cs with
  | nil => cases related; rfl
  | cons c cs =>
    obtain ⟨ds, rfl⟩ := related.exists_cons
    rw [List.takeWhile_cons, List.takeWhile_cons]
    split
    · rename_i inside
      exact congrArg (c :: ·) (takeWhile_tail solid related (solid c inside).2)
    · rfl

/-- Two characters of a word stand side by side in both texts. -/
theorem tail {b c : Char} {rest : List Char} (related : Respaced (b :: c :: rest) ds)
    (solid : Text.isBlank c = false) (word : Operator.isMark b = false ∧ Operator.isMark c = false) :
    ∃ rest', ds = b :: c :: rest' ∧ Respaced (c :: rest) (c :: rest') := by
  generalize behind : c :: rest = more at related
  cases related with
  | @last _ _ gap' blank _ =>
    subst behind
    rw [List.all_cons, solid, Bool.false_and] at blank
    contradiction
  | inside related =>
    subst behind
    obtain ⟨rest', rfl⟩ := related.exists_cons
    exact ⟨rest', rfl, related⟩
  | @across _ d gap gap' cs ds blank blank' _ apart _ =>
    cases gap with
    | nil =>
      obtain ⟨rfl, rfl⟩ := List.cons.inj behind
      rcases apart (Or.inl rfl) with mark | mark
      · rw [word.1] at mark
        contradiction
      · rw [word.2] at mark
        contradiction
    | cons e gap =>
      obtain ⟨rfl, _⟩ := List.cons.inj behind
      rw [List.all_cons, solid, Bool.false_and] at blank
      contradiction

/-- But for blanks both texts hold the same characters. -/
theorem filter_eq (related : Respaced cs ds) :
    cs.filter (fun c => !Text.isBlank c) = ds.filter fun c => !Text.isBlank c := by
  have none {gap : List Char} (blank : gap.all Text.isBlank = true) : gap.filter (fun c => !Text.isBlank c) = [] :=
    List.filter_eq_nil_iff.2 fun c member => by simp [List.all_eq_true.1 blank c member]
  induction related with
  | nil => rfl
  | last blank blank' => rw [List.filter_cons, List.filter_cons, none blank, none blank']
  | inside _ ih => rw [List.filter_cons, List.filter_cons, ih]
  | across blank blank' _ _ _ ih =>
    rw [List.filter_cons, List.filter_cons, List.filter_append, List.filter_append, none blank, none blank', ih]

end Respaced

/-- Two texts that are the same tokens are one text with other blanks, behind one character. -/
theorem Token.Gapped.respaced {b : Char} {cs ds : List Char} {ts : List Token}
    (filled : ∀ t ∈ ts, ∃ c rest, t.text.toList = c :: rest ∧ Text.isBlank c = false)
    (first : Gapped (Operator.isMark b) cs ts) (second : Gapped (Operator.isMark b) ds ts) :
    Respaced (b :: cs) (b :: ds) := by
  induction ts generalizing b cs ds with
  | nil =>
    cases first with
    | done blank =>
      cases second with
      | done blank' => exact .last blank blank'
  | cons t ts ih =>
    obtain ⟨⟨c, more, text, solid⟩, others⟩ := List.forall_mem_cons.1 filled
    cases first with
    | @token _ gap _ rest _ blank start later =>
      cases second with
      | @token _ gap' _ rest' _ blank' start' later' =>
        have begins : t.beginsWithMark = Operator.isMark c := by rw [beginsWithMark, text]; rfl
        have ends : t.endsWithMark = Operator.isMark ((c :: more).getLast (List.cons_ne_nil _ _)) := by
          rw [endsWithMark, text, List.getLast?_eq_some_getLast (List.cons_ne_nil _ _)]
          rfl
        rw [ends] at later later'
        have behind := (ih others later later').prepend (c :: more).dropLast
        rw [List.append_cons _ _ rest, List.append_cons _ _ rest', List.dropLast_concat_getLast] at behind
        rw [text]
        refine .across blank blank' solid (fun tight => ?_) behind
        rw [← begins]
        exact tight.elim start start'

end ShellTemplate
