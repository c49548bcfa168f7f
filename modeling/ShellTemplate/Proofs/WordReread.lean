import ShellTemplate.Proofs.OperatorMarks
import ShellTemplate.Proofs.SegmentReread
import ShellTemplate.Proofs.TextRuns

namespace ShellTemplate.Word

/-- Where a word stops: at a blank, an operator or the end. -/
def stopsAt : List Char → Bool
  | [] => true
  | c :: _ => Text.isBlank c || Operator.isMark c

/-- A word that only the end of the text stopped. -/
def isOpen (w : Word) : Bool :=
  w.any Segment.isOpen

theorem read_of_stopsAt {cs : List Char} (stop : stopsAt cs = true) : read cs = ([], cs) := by
  unfold read
  cases cs with
  | nil => rfl
  | cons c rest =>
    refine if_pos ?_
    rwa [Operator.leading?_isSome]

theorem read_cons {c : Char} {rest : List Char} (goesOn : stopsAt (c :: rest) = false) :
    read (c :: rest) =
      ((Segment.read c rest).1 :: (read (Segment.read c rest).2).1, (read (Segment.read c rest).2).2) := by
  rw [read.eq_def]
  refine if_neg ?_
  rwa [Operator.leading?_isSome, Bool.not_eq_true]

theorem source_read (cs : List Char) : (read cs).1.source ++ (read cs).2 = cs := by
  fun_induction read cs with
  | case1 => rfl
  | case2 => rfl
  | case3 c rest _ first more ih =>
    rw [source, List.flatMap_cons, List.append_assoc]
    change first.1.source ++ (source more.1 ++ more.2) = c :: rest
    rw [ih, Segment.source_read]

theorem stopsAt_rest (cs : List Char) : stopsAt (read cs).2 = true := by
  fun_induction read cs with
  | case1 => rfl
  | case2 c rest stop => rwa [Operator.leading?_isSome] at stop
  | case3 c rest _ first more ih => exact ih

theorem rest_of_open {cs : List Char} (unclosed : (read cs).1.isOpen = true) : (read cs).2 = [] := by
  fun_induction read cs with
  | case1 => rfl
  | case2 => simp [isOpen] at unclosed
  | case3 c rest _ first more ih =>
    simp only [isOpen, List.any_cons, Bool.or_eq_true] at unclosed
    rcases unclosed with now | later
    · have stop : first.2 = [] := Segment.rest_of_open now
      change (read first.2).2 = []
      rw [stop, read_of_stopsAt rfl]
    · exact ih later

theorem not_brace_of_stopsAt {cs : List Char} (stop : stopsAt cs = true) : cs.head? ≠ some '\x7b' := by
  cases cs with
  | nil => simp
  | cons c rest =>
    rintro ⟨⟩
    revert stop
    simp only [stopsAt]
    decide

/-- A word and what follows it begin with the character that was read first. -/
theorem head?_source_append {cs rest : List Char} (goesOn : stopsAt cs = false) :
    ((read cs).1.source ++ rest).head? = cs.head? := by
  cases cs with
  | nil => simp [stopsAt] at goesOn
  | cons c tail =>
    have first := Segment.source_read c tail
    rw [read_cons goesOn, source, List.flatMap_cons]
    cases start : (Segment.read c tail).1.source with
    | nil =>
      rw [start] at first
      have shorter := Segment.length_read c tail
      simp only [List.nil_append] at first
      rw [first, List.length_cons] at shorter
      omega
    | cons d more =>
      rw [start] at first
      simp only [List.cons_append, List.cons.injEq] at first
      simp [first.1]

theorem source_ne_nil {cs : List Char} (goesOn : stopsAt cs = false) : (read cs).1.source ≠ [] := by
  intro empty
  have head := @head?_source_append cs [] goesOn
  rw [empty] at head
  cases cs with
  | nil => simp [stopsAt] at goesOn
  | cons c rest => simp at head

/-- A word is read again from its source wherever it may stop. -/
theorem read_again {cs rest : List Char} (stop : stopsAt rest = true)
    (ended : (read cs).1.isOpen = true → rest = []) :
    read ((read cs).1.source ++ rest) = ((read cs).1, rest) := by
  fun_induction read cs with
  | case1 => exact read_of_stopsAt stop
  | case2 => exact read_of_stopsAt stop
  | case3 c tail goesOn first more ih =>
    rw [Operator.leading?_isSome, Bool.not_eq_true] at goesOn
    simp only [isOpen, List.any_cons, Bool.or_eq_true] at ended
    have again : read (source more.1 ++ rest) = (more.1, rest) := ih fun unclosed => ended (Or.inr unclosed)
    have follows : first.1 = .plain '\x7b' → (source more.1 ++ rest).head? ≠ some '\x7b' := by
      intro isBrace
      by_cases ends : stopsAt first.2 = true
      · have empty : more.1 = [] := by
          change (read first.2).1 = []
          rw [read_of_stopsAt ends]
        rw [empty]
        exact not_brace_of_stopsAt stop
      · rw [Bool.not_eq_true] at ends
        change ((read first.2).1.source ++ rest).head? ≠ some '\x7b'
        rw [head?_source_append ends]
        exact Segment.not_brace_of_read isBrace
    have closes : first.1.isOpen = true → source more.1 ++ rest = [] := by
      intro unclosed
      have empty : first.2 = [] := Segment.rest_of_open unclosed
      have none : more.1 = [] := by
        change (read first.2).1 = []
        rw [empty, read_of_stopsAt rfl]
      rw [none, ended (Or.inl unclosed)]
      rfl
    obtain ⟨start, begins, resumed⟩ := Segment.read_again closes follows
    have whole : source (first.1 :: more.1) ++ rest = c :: (start ++ (source more.1 ++ rest)) := by
      rw [source, List.flatMap_cons, List.append_assoc]
      change first.1.source ++ (source more.1 ++ rest) = _
      rw [show first.1.source = c :: start from begins, List.cons_append]
    rw [whole, read_cons goesOn, resumed]
    change (first.1 :: (read (source more.1 ++ rest)).1, (read (source more.1 ++ rest)).2) = _
    rw [again]

theorem ended?_eq_some_iff {run after rest : List Char} {w : Word} :
    ended? run after = some (w, rest) ↔
      after.head?.all Text.isBlank = true ∧ w = run.map Segment.plain ∧ rest = after := by
  unfold ended?
  split
  · rename_i blank
    simp only [Option.some.injEq, Prod.mk.injEq, blank, true_and, eq_comm]
  · rename_i other
    simp [other]

/-- The bare names in angle brackets, with what follows them. -/
theorem angled?_eq_some_iff {cs after : List Char} {w : Word} :
    angled? cs = some (w, after) ↔
      ∃ name dots, Text.isIdentifier name = true ∧ (dots = [] ∨ dots = ['.', '.', '.']) ∧
        after.head?.all Text.isBlank = true ∧ cs = '<' :: (name ++ '>' :: (dots ++ after)) ∧
        w = ('<' :: (name ++ '>' :: dots)).map Segment.plain := by
  constructor
  · intro found
    unfold angled? at found
    split at found
    · rename_i rest
      have whole := @List.takeWhile_append_dropWhile _ Text.isNameChar rest
      dsimp only at found
      split at found
      · rename_i tail stop
        rw [stop] at whole
        split at found
        · rename_i identifier
          split at found
          · rename_i after'
            obtain ⟨blank, rfl, rfl⟩ := ended?_eq_some_iff.1 found
            exact ⟨_, ['.', '.', '.'], identifier, Or.inr rfl, blank, congrArg ('<' :: ·) whole.symm, by simp⟩
          · obtain ⟨blank, rfl, rfl⟩ := ended?_eq_some_iff.1 found
            exact ⟨_, [], identifier, Or.inl rfl, blank, congrArg ('<' :: ·) whole.symm, by simp⟩
        · simp at found
      · simp at found
    · simp at found
  · rintro ⟨name, dots, identifier, shape, blank, rfl, rfl⟩
    have inside := Text.isNameChar_of_isIdentifier identifier
    have taken (more : List Char) : (name ++ '>' :: more).takeWhile Text.isNameChar = name :=
      Text.takeWhile_run inside (by rfl)
    have dropped (more : List Char) : (name ++ '>' :: more).dropWhile Text.isNameChar = '>' :: more :=
      Text.dropWhile_run inside (by rfl)
    simp only [angled?, taken, dropped, identifier, if_true]
    rcases shape with rfl | rfl
    · split
      · rename_i more start
        rw [List.nil_append] at start
        rw [start] at blank
        exact absurd blank (by simp [show Text.isBlank '.' = false by decide])
      · exact ended?_eq_some_iff.2 ⟨blank, by simp, rfl⟩
    · exact ended?_eq_some_iff.2 ⟨blank, by simp, rfl⟩

theorem source_map_plain (cs : List Char) : source (cs.map Segment.plain) = cs := by
  induction cs with
  | nil => rfl
  | cons c rest ih => simp only [List.map_cons, source, List.flatMap_cons] at ih ⊢; rw [ih]; rfl

theorem value_map_plain (cs : List Char) : value (cs.map Segment.plain) = cs := by
  induction cs with
  | nil => rfl
  | cons c cs ih => exact congrArg (c :: ·) ih

theorem shape_map_plain (cs : List Char) : shape (cs.map Segment.plain) = cs := by
  induction cs with
  | nil => rfl
  | cons c cs ih => exact congrArg (c :: ·) ih

theorem source_append_of_angled? {cs after : List Char} {w : Word} (found : angled? cs = some (w, after)) :
    w.source ++ after = cs := by
  obtain ⟨name, dots, _, _, _, rfl, rfl⟩ := angled?_eq_some_iff.1 found
  rw [source_map_plain]
  simp

/-- Only an opening angle bracket begins a name in angle brackets. -/
theorem angled?_eq_none {c : Char} {rest : List Char} (other : c ≠ '<') : angled? (c :: rest) = none := by
  unfold angled?
  split
  · rename_i same
    simp_all
  · rfl

end ShellTemplate.Word
