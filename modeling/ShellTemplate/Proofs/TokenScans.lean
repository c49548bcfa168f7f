import ShellTemplate.Proofs.WordReread

namespace ShellTemplate.Token

/-- How a text from byte `position` on falls into tokens, one constructor for each way to go on. The
words that blanks or the end stop, those that an operator stops, and the numbers that an operator takes
as its descriptor are told apart. -/
inductive Scans : Nat → List Char → List Token → Prop
  | done {position} : Scans position [] []
  | blank {position c rest ts} : Text.isBlank c = true → Scans (position + c.utf8Size) rest ts →
      Scans position (c :: rest) ts
  | angled {position cs w after ts} : Word.angled? cs = some (w, after) →
      Scans (position + Text.width w.source) after ts → Scans position cs (w.token position :: ts)
  | operator {position cs op ts} : Word.angled? cs = none → Operator.leading? cs = some op →
      Scans (op.token position []).span.stop (op.skip cs) ts → Scans position cs (op.token position [] :: ts)
  | descriptor {position cs op ts} : Word.stopsAt cs = false → Operator.leading? (Word.read cs).2 = some op →
      op.isRedirect = true → (Word.read cs).1.isDescriptor = true →
      Scans (op.token position (Word.read cs).1.source).span.stop (op.skip (Word.read cs).2) ts →
      Scans position cs (op.token position (Word.read cs).1.source :: ts)
  | attached {position middle cs op ts} : Word.stopsAt cs = false →
      Operator.leading? (Word.read cs).2 = some op →
      (op.isRedirect && (Word.read cs).1.isDescriptor) = false →
      middle = position + Text.width (Word.read cs).1.source →
      Scans (op.token middle []).span.stop (op.skip (Word.read cs).2) ts →
      Scans position cs ((Word.read cs).1.token position :: op.token middle [] :: ts)
  | word {position cs ts} : Word.stopsAt cs = false → Operator.leading? (Word.read cs).2 = none →
      Scans (position + Text.width (Word.read cs).1.source) (Word.read cs).2 ts →
      Scans position cs ((Word.read cs).1.token position :: ts)

theorem stopsAt_eq_false {c : Char} {rest : List Char} (blank : ¬Text.isBlank c = true)
    (other : Operator.leading? (c :: rest) = none) : Word.stopsAt (c :: rest) = false := by
  rw [Operator.leading?_eq_none_iff] at other
  simp only [Word.stopsAt, other, Bool.or_false]
  rwa [Bool.not_eq_true] at blank

/-- The scan itself goes these ways. -/
theorem scans_scanFrom (position : Nat) (cs : List Char) : Scans position cs (scanFrom position cs) := by
  fun_induction scanFrom position cs with
  | case1 => exact .done
  | case2 position c rest blank ih => exact .blank blank ih
  | case3 position c rest blank w after angled ih => exact .angled angled ih
  | case4 position c rest blank angled op found t ih => exact .operator angled found ih
  | case5 position c rest blank _ other first more word op found binds t ih =>
    have goesOn := stopsAt_eq_false blank other
    have whole : Word.read (c :: rest) = (word, more.2) := Word.read_cons goesOn
    obtain ⟨redirects, isDescriptor⟩ := Bool.and_eq_true_iff.1 binds
    have step := @Scans.descriptor position (c :: rest) op (scanFrom t.span.stop (op.skip more.2)) goesOn
    rw [whole] at step
    exact step found redirects isDescriptor ih
  | case6 position c rest blank _ other first more word middle op found apart t ih =>
    have goesOn := stopsAt_eq_false blank other
    have whole : Word.read (c :: rest) = (word, more.2) := Word.read_cons goesOn
    have step := @Scans.attached position middle (c :: rest) op (scanFrom t.span.stop (op.skip more.2)) goesOn
    rw [whole] at step
    exact step found (Bool.eq_false_iff.2 apart) rfl ih
  | case7 position c rest blank _ other first more word middle found ih =>
    have goesOn := stopsAt_eq_false blank other
    have whole : Word.read (c :: rest) = (word, more.2) := Word.read_cons goesOn
    have step := @Scans.word position (c :: rest) (scanFrom middle more.2) goesOn
    rw [whole] at step
    exact step found ih

theorem goesOn_cons {cs : List Char} (goesOn : Word.stopsAt cs = false) :
    ∃ c rest, cs = c :: rest ∧ ¬Text.isBlank c = true ∧ Operator.leading? (c :: rest) = none ∧ c ≠ '<' := by
  cases cs with
  | nil => simp [Word.stopsAt] at goesOn
  | cons c rest =>
    simp only [Word.stopsAt, Bool.or_eq_false_iff] at goesOn
    refine ⟨c, rest, rfl, by simp [goesOn.1], Operator.leading?_eq_none_iff.2 goesOn.2, ?_⟩
    rintro rfl
    exact absurd goesOn.2 (by decide)

/-- No text falls into tokens in two ways. -/
theorem Scans.eq_scanFrom {position : Nat} {cs : List Char} {ts : List Token}
    (scans : Scans position cs ts) : ts = scanFrom position cs := by
  -- The scan is opened by its defining equation, as the equations by cases take long to derive.
  induction scans with
  | done => rw [scanFrom.eq_def]
  | blank blank _ ih =>
    rw [scanFrom.eq_def]
    exact ih.trans (if_pos blank).symm
  | @angled position cs w after ts found _ ih =>
    obtain ⟨name, dots, _, _, _, rfl, _⟩ := Word.angled?_eq_some_iff.1 found
    rw [scanFrom.eq_def]
    dsimp only
    rw [if_neg (by decide)]
    split
    · rename_i again
      rw [found] at again
      obtain ⟨rfl, rfl⟩ := Prod.mk.inj (Option.some.inj again)
      rw [ih]
    · simp_all
  | @operator position cs op ts plain found _ ih =>
    obtain ⟨c, rest, rfl⟩ : ∃ c rest, cs = c :: rest := by
      cases cs with
      | nil => simp [Operator.leading?] at found
      | cons c rest => exact ⟨c, rest, rfl⟩
    rw [scanFrom.eq_def]
    dsimp only
    rw [if_neg (by simp [Operator.not_blank_of_isMark (Operator.isMark_of_leading? found)])]
    split
    · simp_all
    · rw [found, ih]
  | @descriptor position cs op ts goesOn found redirects isDescriptor _ ih =>
    obtain ⟨c, rest, rfl, blank, other, ne⟩ := goesOn_cons goesOn
    rw [Word.read_cons goesOn] at found isDescriptor ih ⊢
    rw [scanFrom.eq_def]
    dsimp only
    rw [if_neg blank]
    split
    · simp_all [Word.angled?_eq_none ne]
    · simp only [other, found, redirects, isDescriptor, Bool.and_self, if_true, ih]
  | @attached position middle cs op ts goesOn found apart start _ ih =>
    obtain ⟨c, rest, rfl, blank, other, ne⟩ := goesOn_cons goesOn
    rw [Word.read_cons goesOn] at found apart start ih ⊢
    rw [scanFrom.eq_def]
    dsimp only
    rw [if_neg blank]
    split
    · simp_all [Word.angled?_eq_none ne]
    · simp only [other, found, apart, Bool.false_eq_true, if_false, ih, start]
  | @word position cs ts goesOn found _ ih =>
    obtain ⟨c, rest, rfl, blank, other, ne⟩ := goesOn_cons goesOn
    rw [Word.read_cons goesOn] at found ih ⊢
    rw [scanFrom.eq_def]
    dsimp only
    rw [if_neg blank]
    split
    · simp_all [Word.angled?_eq_none ne]
    · simp only [other, found, ih]

end ShellTemplate.Token
