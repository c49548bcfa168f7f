import ShellTemplate.Proofs.Reading
import ShellTemplate.Proofs.TokenTiles

namespace ShellTemplate

namespace Reading

open Operator

theorem run_single (rest : List Char) :
    single.run rest = word.run (match rest.dropWhile (· != '\'') with | [] => [] | _ :: after => after) := by
  induction rest with
  | nil => rfl
  | cons c rest ih =>
    by_cases quote : c = '\''
    · subst quote
      exact run_of_step rfl
    · have step : single.step c = ([], single) := by simp [step, quote]
      rw [run_of_step step, List.nil_append, ih, List.dropWhile_cons_of_pos (by simpa using quote)]

theorem run_double (cs : List Char) : double.run cs = word.run (Segment.doubleBody cs).2.2 := by
  fun_induction Segment.doubleBody cs with
  | case1 => rfl
  | case2 c isQuote =>
    cases beq_iff_eq.1 isQuote
    rfl
  | case3 c other =>
    rw [run_cons]
    by_cases backslash : c = '\\'
    · subst backslash
      rfl
    · have step : double.step c = ([], double) := by simp_all [step]
      rw [step]
      rfl
  | case4 c d rest isQuote =>
    cases beq_iff_eq.1 isQuote
    exact run_of_step rfl
  | case5 c d rest _ escapes body closed after found ih =>
    rw [found] at ih
    obtain ⟨isBackslash, _⟩ := Bool.and_eq_true_iff.1 escapes
    cases beq_iff_eq.1 isBackslash
    rw [run_of_step (show double.step '\\' = ([], doubleEscape) from rfl), List.nil_append,
      run_of_step (show doubleEscape.step d = ([], double) from rfl), List.nil_append, ih]
  | case6 c d rest other plain body closed after found ih =>
    rw [found] at ih
    rw [← ih]
    by_cases backslash : c = '\\'
    · subst backslash
      -- A backslash before any other character stands for itself, and that character is no quote.
      have ordinary : Segment.isEscapable d = false := by simpa using plain
      have step : double.step d = ([], double) := by
        simp only [Segment.isEscapable, Bool.or_eq_false_iff, beq_eq_false_iff_ne] at ordinary
        simp [Reading.step, ordinary]
      rw [run_of_step (show double.step '\\' = ([], doubleEscape) from rfl), List.nil_append,
        run_of_step (show doubleEscape.step d = ([], double) from rfl), run_of_step step]
    · have step : double.step c = ([], double) := by simp_all [step]
      rw [run_of_step step, List.nil_append]

theorem run_braced (cs : List Char) : (braced false).run cs = word.run (Segment.bracedRun cs).2 := by
  fun_induction Segment.bracedRun cs with
  | case1 => rfl
  | case2 c => rw [run_cons]; by_cases brace : c = '\x7d' <;> simp [step, brace, finish]
  | case3 c d rest closes =>
    obtain ⟨isFirst, isSecond⟩ := Bool.and_eq_true_iff.1 closes
    cases beq_iff_eq.1 isFirst
    cases beq_iff_eq.1 isSecond
    rw [run_of_step (show (braced false).step '\x7d' = ([], braced true) from rfl), List.nil_append]
    exact run_of_step rfl
  | case4 c d rest apart run after found ih =>
    rw [found] at ih
    rw [← ih]
    by_cases brace : c = '\x7d'
    · subst brace
      have other : d ≠ '\x7d' := by rintro rfl; exact apart rfl
      have first : (braced true).step d = ([], braced false) := by simp [step, other]
      have second : (braced false).step d = ([], braced false) := by simp [step, other]
      rw [run_of_step (show (braced false).step '\x7d' = ([], braced true) from rfl), List.nil_append,
        run_of_step first, run_of_step second]
    · have step : (braced false).step c = ([], braced false) := by simp [step, brace]
      rw [run_of_step step, List.nil_append]

/-- A segment is passed over without an operator. -/
theorem run_segment {c : Char} {rest : List Char} (goesOn : Word.stopsAt (c :: rest) = false) :
    word.run (c :: rest) = word.run (Segment.read c rest).2 := by
  obtain ⟨blank, mark⟩ := Bool.or_eq_false_iff.1 goesOn
  by_cases isBackslash : c = '\\'
  · subst isBackslash
    cases rest with
    | nil => rfl
    | cons d after =>
      rw [run_of_step (show word.step '\\' = ([], escape) from rfl), List.nil_append]
      exact run_of_step rfl
  by_cases isSingle : c = '\''
  · subst isSingle
    rw [run_of_step (show word.step '\'' = ([], single) from rfl), List.nil_append, run_single]
    simp only [Segment.read]
    cases rest.dropWhile (· != '\'') <;> rfl
  by_cases isDouble : c = '"'
  · subst isDouble
    rw [run_of_step (show word.step '"' = ([], double) from rfl), List.nil_append, run_double]
    rfl
  by_cases isBrace : c = '\x7b'
  · subst isBrace
    rw [run_of_step (show word.step '\x7b' = ([], brace) from rfl), List.nil_append]
    cases rest with
    | nil => rfl
    | cons d inner =>
      by_cases opens : d = '\x7b'
      · subst opens
        rw [run_of_step (show brace.step '\x7b' = ([], braced false) from rfl), List.nil_append, run_braced]
        rfl
      · have step : brace.step d = word.step d := if_neg opens
        have shape : Segment.read '\x7b' (d :: inner) = (.plain '\x7b', d :: inner) := by simp [Segment.read, opens]
        rw [shape, run_cons, step, ← run_cons]
  · have shape : Segment.read c rest = (.plain c, rest) := by
      simp [Segment.read, isBackslash, isSingle, isDouble, isBrace]
    have step : word.step c = ([], word) := fromWord_of_plain blank mark (by simp_all)
    rw [shape, run_of_step step, List.nil_append]

theorem run_word (cs : List Char) : word.run cs = word.run (Word.read cs).2 := by
  fun_induction Word.read cs with
  | case1 => rfl
  | case2 => rfl
  | case3 c rest goesOn first more ih =>
    rw [Operator.leading?_isSome, Bool.not_eq_true] at goesOn
    rw [run_segment goesOn]
    exact ih

end Reading

end ShellTemplate
