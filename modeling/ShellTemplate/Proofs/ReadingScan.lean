import ShellTemplate.Proofs.ReadingWords

namespace ShellTemplate

namespace Reading

open Operator

/-- An operator is found with what follows its first character. -/
theorem run_pending {c : Char} {rest : List Char} {first op : Operator} (mark : ofMark? c = some first)
    (found : leading? (c :: rest) = some op) :
    (pending first).run rest = op :: between.run (op.skip (c :: rest)) := by
  cases rest with
  | nil =>
    rw [leading?_one, mark] at found
    cases found
    rw [skip_of_mark mark]
    rfl
  | cons d rest =>
    rw [leading?_two, mark] at found
    rw [run_cons]
    simp only [step, fromPending, grow?_of_mark mark]
    cases longer : ofMarks? c d with
    | some two =>
      rw [longer] at found
      cases found
      rw [skip_of_marks longer]
      rfl
    | none =>
      rw [longer] at found
      cases found
      rw [skip_of_mark mark, run_cons]
      rfl

theorem exists_mark {cs : List Char} {op : Operator} (found : leading? cs = some op) :
    ∃ c rest first, cs = c :: rest ∧ ofMark? c = some first := by
  cases cs with
  | nil => exact nomatch found
  | cons c rest =>
    obtain ⟨first, mark⟩ := Option.isSome_iff_exists.1 (isMark_of_leading? found)
    exact ⟨c, rest, first, rfl, mark⟩

theorem run_word_operator {cs : List Char} {op : Operator} (found : leading? cs = some op) :
    word.run cs = op :: between.run (op.skip cs) := by
  obtain ⟨c, rest, first, rfl, mark⟩ := exists_mark found
  rw [run_of_step (show word.step c = _ from fromWord_of_mark mark), List.nil_append, run_pending mark found]

theorem run_word_blank {c : Char} (rest : List Char) (blank : Text.isBlank c = true) :
    word.run (c :: rest) = between.run rest := by
  rw [run_of_step (show word.step c = _ from fromWord_of_blank blank), List.nil_append]

theorem ne_bracket_of_blank {c : Char} (blank : Text.isBlank c = true) : c ≠ '<' := by
  rintro rfl
  exact absurd blank (by decide)

theorem run_between_blank {c : Char} (rest : List Char) (blank : Text.isBlank c = true) :
    between.run (c :: rest) = between.run rest := by
  have step : between.step c = ([], between) := by
    rw [Reading.step, fromBetween_of_ne (ne_bracket_of_blank blank), fromWord_of_blank blank]
  rw [run_of_step step, List.nil_append]

/-- Behind a word that no operator ends a new one may begin. -/
theorem run_word_of_stop {cs : List Char} (stop : Word.stopsAt cs = true) (none : leading? cs = none) :
    word.run cs = between.run cs := by
  cases cs with
  | nil => rfl
  | cons c rest =>
    rw [Word.stopsAt, leading?_eq_none_iff.1 none, Bool.or_false] at stop
    rw [run_word_blank rest stop, run_between_blank rest stop]

theorem run_between_word {cs : List Char} (goesOn : Word.stopsAt cs = false) : between.run cs = word.run cs := by
  cases cs with
  | nil => simp [Word.stopsAt] at goesOn
  | cons c rest =>
    have other : c ≠ '<' := by
      rintro rfl
      exact absurd goesOn (by simp [Word.stopsAt, show isMark '<' = true by decide])
    rw [run_cons, run_cons]
    simp only [step, fromBetween_of_ne other]

theorem not_mark_of_isNameChar {c : Char} (inside : Text.isNameChar c = true) : isMark c = false := by
  cases mark : isMark c with
  | false => rfl
  | true => rcases isMark_iff.1 mark with rfl | rfl | rfl | rfl | rfl <;> exact absurd inside (by decide)

theorem fromWord_of_isNameChar {c : Char} (inside : Text.isNameChar c = true) : fromWord c = ([], word) := by
  refine fromWord_of_plain (Text.not_blank_of_isNameChar inside) (not_mark_of_isNameChar inside) fun member => ?_
  simp only [List.mem_cons, List.not_mem_nil, or_false] at member
  rcases member with rfl | rfl | rfl | rfl <;> exact absurd inside (by decide)

theorem read_name {cs : List Char} (inside : ∀ c ∈ cs, Text.isNameChar c = true) :
    name.read cs = ([], name) ∧ word.read cs = ([], word) := by
  induction cs with
  | nil => exact ⟨rfl, rfl⟩
  | cons c cs ih =>
    obtain ⟨first, second⟩ := ih fun d member => inside d (List.mem_cons_of_mem _ member)
    have isName := inside c List.mem_cons_self
    constructor
    · rw [read_cons, show name.step c = ([], name) from if_pos isName, first]
      rfl
    · rw [read_cons, show word.step c = ([], word) from fromWord_of_isNameChar isName, second]
      rfl

/-- A name is passed over, in angle brackets or out of them. -/
theorem run_identifier {cs : List Char} (identifier : Text.isIdentifier cs = true) (tail : List Char) :
    angle.run (cs ++ tail) = name.run tail ∧ between.run (cs ++ tail) = word.run tail := by
  have inside := Text.isNameChar_of_isIdentifier identifier
  cases cs with
  | nil => simp [Text.isIdentifier] at identifier
  | cons c cs =>
    obtain ⟨alpha, _⟩ := Bool.and_eq_true_iff.1 identifier
    obtain ⟨first, second⟩ := read_name fun d member => inside d (List.mem_cons_of_mem c member)
    have isName := inside c List.mem_cons_self
    have other : c ≠ '<' := by
      rintro rfl
      exact absurd alpha (by decide)
    have step : between.step c = ([], word) := by
      rw [Reading.step, fromBetween_of_ne other, fromWord_of_isNameChar isName]
    constructor
    · rw [List.cons_append, run_of_step (show angle.step c = ([], name) from if_pos alpha), List.nil_append,
        run_append, first, List.nil_append]
    · rw [List.cons_append, run_of_step step, List.nil_append, run_append, second, List.nil_append]

theorem run_dots_end {count : Nat} {after : List Char} (complete : count = 0 ∨ count = 3)
    (blank : after.head?.all Text.isBlank = true) : (dots count).run after = between.run after := by
  cases after with
  | nil => simp [finish, complete]
  | cons c rest =>
    have isBlank : Text.isBlank c = true := blank
    have other : c ≠ '.' := by
      rintro rfl
      exact absurd isBlank (by decide)
    have step : (dots count).step c = ([], between) := by simp [Reading.step, other, isBlank, complete]
    rw [run_of_step step, run_between_blank rest isBlank, List.nil_append]

theorem run_angled {cs after : List Char} {w : Word} (found : Word.angled? cs = some (w, after)) :
    between.run cs = between.run after := by
  obtain ⟨name, marks, identifier, shape, blank, rfl, _⟩ := Word.angled?_eq_some_iff.1 found
  rw [run_of_step (show between.step '<' = ([], angle) from rfl), List.nil_append, (run_identifier identifier _).1,
    run_of_step (show Reading.name.step '>' = ([], dots 0) from rfl), List.nil_append]
  rcases shape with rfl | rfl
  · exact run_dots_end (Or.inl rfl) blank
  · exact run_dots_end (Or.inr rfl) blank

/-- Dots that no blank completes belong to a word. -/
theorem run_dots_fails {count : Nat} {rest : List Char} (some : 0 < count) (few : count ≤ 3)
    (fails : ∀ after, rest = List.replicate (3 - count) '.' ++ after → after.head?.all Text.isBlank = false) :
    (dots count).run rest = .redirectIn :: .redirectOut :: word.run rest := by
  induction rest generalizing count with
  | nil =>
    have incomplete : count ≠ 3 := by
      rintro rfl
      exact absurd (fails [] rfl) (by decide)
    have positive : count ≠ 0 := by omega
    simp [finish, incomplete, positive]
  | cons c rest ih =>
    have positive : count ≠ 0 := by omega
    by_cases more : c = '.' ∧ count < 3
    · obtain ⟨rfl, less⟩ := more
      have step : (dots count).step '.' = ([], dots (count + 1)) := by simp [Reading.step, less]
      rw [run_of_step step, List.nil_append, run_of_step (show word.step '.' = ([], word) from rfl), List.nil_append]
      refine ih (by omega) (by omega) fun after whole => fails after ?_
      rw [whole, show 3 - count = 3 - (count + 1) + 1 by omega, List.replicate_succ, List.cons_append]
    · have open_ : ¬(Text.isBlank c = true ∧ (count = 0 ∨ count = 3)) := by
        rintro ⟨blank, none | all⟩
        · exact positive none
        · subst all
          have solid : Text.isBlank c = false := fails (c :: rest) rfl
          rw [blank] at solid
          contradiction
      have step : (dots count).step c = emit [.redirectIn, .redirectOut] (fromWord c) := by
        simp only [Reading.step, if_neg more, if_neg open_, if_neg positive]
      rw [run_of_step step, run_cons]
      rfl

/-- A closing bracket whose name no blank completes is an operator. -/
theorem run_closed_fails {name tail : List Char} (identifier : Text.isIdentifier name = true)
    (plain : Word.angled? ('<' :: (name ++ '>' :: tail)) = none) :
    (dots 0).run tail = .redirectIn :: word.run ('>' :: tail) := by
  have fails (marks after : List Char) (shape : marks = [] ∨ marks = ['.', '.', '.'])
      (whole : tail = marks ++ after) : after.head?.all Text.isBlank = false := by
    cases blank : after.head?.all Text.isBlank with
    | false => rfl
    | true =>
      have found := Word.angled?_eq_some_iff.2 ⟨name, marks, identifier, shape, blank, rfl, rfl⟩
      rw [whole, found] at plain
      exact nomatch plain
  rw [run_of_step (show word.step '>' = ([], pending .redirectOut) from rfl), List.nil_append]
  cases tail with
  | nil => exact absurd (fails [] [] (Or.inl rfl) rfl) (by decide)
  | cons c rest =>
    have solid : Text.isBlank c = false := fails [] (c :: rest) (Or.inl rfl) rfl
    by_cases isDot : c = '.'
    · subst isDot
      rw [run_of_step (show (dots 0).step '.' = ([], dots 1) from rfl), List.nil_append,
        run_of_step (show (pending .redirectOut).step '.' = ([.redirectOut], word) from rfl)]
      refine run_dots_fails (by decide) (by decide) fun after whole => fails ['.', '.', '.'] after (Or.inr rfl) ?_
      rw [whole]
      rfl
    · have step : (dots 0).step c = emit [.redirectIn] (fromPending .redirectOut c) := by
        simp [Reading.step, isDot, solid]
      rw [run_of_step step, run_cons]
      rfl

/-- An opening bracket that begins no name in angle brackets is an operator. -/
theorem run_angle_fails {rest : List Char} {op : Operator} (plain : Word.angled? ('<' :: rest) = none)
    (found : leading? ('<' :: rest) = some op) : angle.run rest = op :: between.run (op.skip ('<' :: rest)) := by
  have mark : ofMark? '<' = some .redirectIn := rfl
  rw [← run_pending mark found]
  cases rest with
  | nil => rfl
  | cons c more =>
    by_cases alpha : c.isAlpha = true
    · have single : (pending .redirectIn).run (c :: more) = .redirectIn :: between.run (c :: more) := by
        have stays : Operator.redirectIn.grow? c = none := by
          have apart : Operator.redirectIn.growsBy (c :: more) = false := by
            refine growsBy_eq_false ⟨?_, ?_, ?_, ?_⟩ <;> rintro rfl <;> exact absurd alpha (by decide)
          simpa [growsBy] using apart
        rw [run_cons]
        simp only [step, fromPending, stays]
        rw [run_cons]
        rfl
      rw [single]
      have whole : c :: more = (c :: more).takeWhile Text.isNameChar ++ (c :: more).dropWhile Text.isNameChar :=
        List.takeWhile_append_dropWhile.symm
      have isName : Text.isNameChar c = true := by simp [Text.isNameChar, Char.isAlphanum, alpha]
      have identifier : Text.isIdentifier ((c :: more).takeWhile Text.isNameChar) = true := by
        rw [List.takeWhile_cons_of_pos isName, Text.isIdentifier, alpha, Bool.true_and]
        exact List.all_takeWhile
      have stop := List.head?_dropWhile_not Text.isNameChar (c :: more)
      generalize (c :: more).takeWhile Text.isNameChar = name at whole identifier
      generalize (c :: more).dropWhile Text.isNameChar = tail at whole stop
      rw [whole, (run_identifier identifier tail).1, (run_identifier identifier tail).2]
      cases tail with
      | nil => rfl
      | cons d tail =>
        have outside : Text.isNameChar d = false := by simpa using stop
        by_cases closes : d = '>'
        · subst closes
          rw [run_of_step (show Reading.name.step '>' = ([], dots 0) from rfl), List.nil_append]
          rw [whole] at plain
          exact run_closed_fails identifier plain
        · have step : Reading.name.step d = emit [.redirectIn] (fromWord d) := by
            simp [Reading.step, outside, closes]
          rw [run_of_step step, run_cons]
          rfl
    · rw [run_cons, run_cons]
      simp only [step, if_neg alpha]

theorem run_between_operator {cs : List Char} {op : Operator} (plain : Word.angled? cs = none)
    (found : leading? cs = some op) : between.run cs = op :: between.run (op.skip cs) := by
  obtain ⟨c, rest, first, rfl, mark⟩ := exists_mark found
  by_cases bracket : c = '<'
  · subst bracket
    rw [run_of_step (show between.step '<' = ([], angle) from rfl), List.nil_append, run_angle_fails plain found]
  · rw [← run_word_operator found, run_cons, run_cons]
    simp only [step, fromBetween_of_ne bracket]

end Reading

namespace Token

/-- The operators of a command line, in order. -/
def operators (command : String) : List String :=
  ((scan command).filter (·.isSeparator)).map (·.value)

/-- The reader finds the operators of the tokens. -/
theorem Scans.operators {position : Nat} {cs : List Char} {ts : List Token} (scans : Scans position cs ts) :
    (ts.filter (·.isSeparator)).map (·.value) = (Reading.between.run cs).map Operator.symbol := by
  induction scans with
  | done => rfl
  | blank blank _ ih => rw [Reading.run_between_blank _ blank, ih]
  | angled found _ ih =>
    rw [Reading.run_angled found, ← ih, List.filter_cons_of_neg]
    simp [Word.token_isSeparator]
  | operator plain found _ ih =>
    rw [Reading.run_between_operator plain found, List.map_cons, ← ih, List.filter_cons_of_pos rfl]
    rfl
  | descriptor goesOn found _ _ _ ih =>
    rw [Reading.run_between_word goesOn, Reading.run_word, Reading.run_word_operator found, List.map_cons, ← ih,
      List.filter_cons_of_pos rfl]
    rfl
  | attached goesOn found _ _ _ ih =>
    rw [Reading.run_between_word goesOn, Reading.run_word, Reading.run_word_operator found, List.map_cons, ← ih,
      List.filter_cons_of_neg (by simp [Word.token_isSeparator]), List.filter_cons_of_pos rfl]
    rfl
  | word goesOn none _ ih =>
    rw [Reading.run_between_word goesOn, Reading.run_word, Reading.run_word_of_stop (Word.stopsAt_rest _) none, ← ih,
      List.filter_cons_of_neg]
    simp [Word.token_isSeparator]

theorem operators_eq_run (command : String) :
    operators command = (Reading.between.run command.toList).map Operator.symbol :=
  (scans_scanFrom 0 command.toList).operators

end Token

end ShellTemplate
