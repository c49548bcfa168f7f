import ShellTemplate.Token.Segment

namespace ShellTemplate

namespace Segment

/-- A segment that only the end of the text stopped: whatever followed it would belong to it. -/
def isOpen : Segment → Bool
  | .lastBackslash => true
  | .singleQuoted _ closed | .doubleQuoted _ closed => !closed
  | .braced run => !Text.holdsRun ['\x7d', '\x7d'] run
  | .plain _ | .escaped _ => false

theorem doubleBody_source (cs : List Char) :
    (doubleBody cs).1 ++ (closing '"' (doubleBody cs).2.1 ++ (doubleBody cs).2.2) = cs := by
  fun_induction doubleBody cs with
  | case1 => rfl
  | case2 c isQuote =>
    cases beq_iff_eq.1 isQuote
    rfl
  | case3 => rfl
  | case4 c d rest isQuote =>
    cases beq_iff_eq.1 isQuote
    rfl
  | case5 c d rest _ _ body closed after found ih =>
    rw [found] at ih
    simpa only [List.cons_append, List.cons.injEq, true_and] using ih
  | case6 c d rest _ _ body closed after found ih =>
    rw [found] at ih
    simpa only [List.cons_append, List.cons.injEq, true_and] using ih

theorem rest_of_doubleBody_open {cs : List Char} (unclosed : (doubleBody cs).2.1 = false) :
    (doubleBody cs).2.2 = [] := by
  fun_induction doubleBody cs with
  | case1 => rfl
  | case2 => rfl
  | case3 => rfl
  | case4 => simp at unclosed
  | case5 c d rest _ _ body closed after found ih =>
    rw [found] at ih
    exact ih unclosed
  | case6 c d rest _ _ body closed after found ih =>
    rw [found] at ih
    exact ih unclosed

theorem doubleBody_quote (rest : List Char) : doubleBody ('"' :: rest) = ([], true, rest) := by
  cases rest <;> rfl

/-- The body with its closing quote begins with the character that was read first. -/
theorem doubleBody_head (d : Char) (tail rest : List Char) :
    ∃ more, (doubleBody (d :: tail)).1 ++ (closing '"' (doubleBody (d :: tail)).2.1 ++ rest) = d :: more := by
  cases tail with
  | nil =>
    by_cases isQuote : d = '"'
    · exact ⟨rest, by simp [doubleBody, isQuote, closing]⟩
    · exact ⟨rest, by simp [doubleBody, isQuote, closing]⟩
  | cons e tail =>
    by_cases isQuote : d = '"'
    · exact ⟨rest, by simp [doubleBody, isQuote, closing]⟩
    · by_cases escapes : (d == '\\' && isEscapable e) = true
      · simp [doubleBody, isQuote, escapes]
      · simp [doubleBody, isQuote, escapes]

/-- What a double-quoted body is read as does not depend on what stands after its closing quote. -/
theorem doubleBody_again (cs rest : List Char) (ended : (doubleBody cs).2.1 = false → rest = []) :
    doubleBody ((doubleBody cs).1 ++ (closing '"' (doubleBody cs).2.1 ++ rest)) =
      ((doubleBody cs).1, (doubleBody cs).2.1, rest) := by
  fun_induction doubleBody cs with
  | case1 => simp [closing, doubleBody, ended rfl]
  | case2 => exact doubleBody_quote rest
  | case3 c other => simp [closing, doubleBody, ended rfl, other]
  | case4 => exact doubleBody_quote rest
  | case5 c d tail other escapes body closed after found ih =>
    rw [found] at ih
    have again := ih ended
    simp only [List.cons_append, doubleBody, other, escapes, again, Bool.false_eq_true, if_false, if_true]
  | case6 c d tail other plain body closed after found ih =>
    obtain ⟨more, next⟩ := doubleBody_head d tail rest
    rw [found] at ih next
    have again := ih ended
    simp only [next] at again
    simp only [List.cons_append, next, doubleBody, other, plain, again, Bool.false_eq_true, if_false]

theorem bracedRun_source (cs : List Char) : (bracedRun cs).1 ++ (bracedRun cs).2 = cs := by
  fun_induction bracedRun cs with
  | case1 => rfl
  | case2 => rfl
  | case3 => rfl
  | case4 c d rest _ run after found ih =>
    rw [found] at ih
    simpa only [List.cons_append, List.cons.injEq, true_and] using ih

theorem bracedRun_head (d : Char) (tail : List Char) : ∃ more, (bracedRun (d :: tail)).1 = d :: more := by
  cases tail with
  | nil => exact ⟨[], rfl⟩
  | cons e tail =>
    by_cases closes : (d == '\x7d' && e == '\x7d') = true
    · exact ⟨[e], by simp only [bracedRun, closes, if_true]⟩
    · simp [bracedRun, closes]

/-- A run is open exactly if it holds no two closing braces side by side. -/
theorem rest_of_bracedRun_open {cs : List Char} (unclosed : (braced (bracedRun cs).1).isOpen = true) :
    (bracedRun cs).2 = [] := by
  fun_induction bracedRun cs with
  | case1 => rfl
  | case2 => rfl
  | case3 c d rest closes =>
    obtain ⟨isFirst, isSecond⟩ := Bool.and_eq_true_iff.1 closes
    cases beq_iff_eq.1 isFirst
    cases beq_iff_eq.1 isSecond
    simp [isOpen, Text.holdsRun] at unclosed
  | case4 c d rest _ run after found ih =>
    rw [found] at ih
    refine ih ?_
    simp only [isOpen, Text.holdsRun, Bool.not_eq_true', Bool.or_eq_false_iff] at unclosed ⊢
    exact unclosed.2

theorem bracedRun_again {cs rest : List Char}
    (ended : (braced (bracedRun cs).1).isOpen = true → rest = []) :
    bracedRun ((bracedRun cs).1 ++ rest) = ((bracedRun cs).1, rest) := by
  fun_induction bracedRun cs with
  | case1 => simp [bracedRun, ended rfl]
  | case2 c =>
    have stop : rest = [] := ended (by simp [isOpen, Text.holdsRun, List.isPrefixOf])
    simp [stop, bracedRun]
  | case3 c d tail closes => simp only [List.cons_append, List.nil_append, bracedRun, closes, if_true]
  | case4 c d tail apart run after found ih =>
    obtain ⟨more, next⟩ := bracedRun_head d tail
    rw [found] at ih next
    simp only at ih next
    subst next
    have again := ih fun unclosed => ended <| by
      have start : ['\x7d', '\x7d'].isPrefixOf (c :: d :: more) = false := by
        rw [Bool.eq_false_iff]
        intro both
        simp only [List.isPrefixOf, Bool.and_true, Bool.and_eq_true, beq_iff_eq] at both
        exact apart (by simp [← both.1, ← both.2])
      simp only [isOpen, Text.holdsRun, start, Bool.false_or] at unclosed ⊢
      exact unclosed
    simp only [List.cons_append] at again ⊢
    simp only [bracedRun, apart, again, Bool.false_eq_true, if_false]

theorem source_read (c : Char) (rest : List Char) :
    (read c rest).1.source ++ (read c rest).2 = c :: rest := by
  unfold read
  split
  · rename_i isBackslash
    cases beq_iff_eq.1 isBackslash
    split <;> rfl
  · split
    · rename_i isQuote
      cases beq_iff_eq.1 isQuote
      have whole := @List.takeWhile_append_dropWhile _ (· != '\'') rest
      split
      · rename_i stop
        simpa [source, closing, stop] using whole
      · rename_i e after stop
        have isQuote : (e != '\'') = false := by
          have head := List.head?_dropWhile_not (· != '\'') rest
          simpa [stop] using head
        simp only [bne_eq_false_iff_eq] at isQuote
        subst isQuote
        simpa [source, closing, stop] using whole
    · split
      · rename_i isQuote
        cases beq_iff_eq.1 isQuote
        simp [source, doubleBody_source]
      · split
        · rename_i isBrace
          cases beq_iff_eq.1 isBrace
          split
          · simp [source, bracedRun_source]
          · rfl
        · rfl

theorem rest_of_open {c : Char} {rest : List Char} (unclosed : (read c rest).1.isOpen = true) :
    (read c rest).2 = [] := by
  unfold read at unclosed ⊢
  split
  · split
    · rfl
    · simp_all [isOpen]
  · split
    · split
      · rfl
      · simp_all [isOpen]
    · split
      · simp_all [isOpen, rest_of_doubleBody_open]
      · split
        · split
          · simp_all [rest_of_bracedRun_open]
          · simp_all [isOpen]
        · simp_all [isOpen]

/-- A brace that stands for itself was not followed by another one. -/
theorem not_brace_of_read {c : Char} {rest : List Char} (isBrace : (read c rest).1 = .plain '\x7b') :
    (read c rest).2.head? ≠ some '\x7b' := by
  unfold read at isBrace ⊢
  split
  · split <;> simp_all
  · split
    · split <;> simp_all
    · split
      · simp_all
      · split
        · split
          · simp_all
          · rename_i single
            intro second
            cases rest with
            | nil => simp at second
            | cons d inner =>
              cases second
              exact single inner rfl
        · simp_all

/-- A segment that was closed is read again whatever follows it; only a brace must not meet a second
one. -/
theorem read_again {c : Char} {rest more : List Char} (ended : (read c rest).1.isOpen = true → more = [])
    (apart : (read c rest).1 = .plain '\x7b' → more.head? ≠ some '\x7b') :
    ∃ tail, (read c rest).1.source = c :: tail ∧ read c (tail ++ more) = ((read c rest).1, more) := by
  by_cases isBackslash : c = '\\'
  · subst isBackslash
    cases rest with
    | nil => exact ⟨[], rfl, by simp [ended rfl, read]⟩
    | cons d after => exact ⟨[d], rfl, rfl⟩
  by_cases isSingle : c = '\''
  · subst isSingle
    have body : ∀ d ∈ rest.takeWhile (· != '\''), (d != '\'') = true := List.all_eq_true.1 List.all_takeWhile
    cases stop : rest.dropWhile (· != '\'') with
    | nil =>
      have whole : rest.takeWhile (· != '\'') = rest := by
        simpa [stop] using @List.takeWhile_append_dropWhile _ (· != '\'') rest
      have shape : read '\'' rest = (.singleQuoted rest false, []) := by simp [read, stop, whole]
      rw [shape] at ended ⊢
      exact ⟨rest, by simp [source, closing], by rw [ended rfl, List.append_nil, shape]⟩
    | cons e after =>
      have shape : read '\'' rest = (.singleQuoted (rest.takeWhile (· != '\'')) true, after) := by
        simp [read, stop]
      rw [shape]
      refine ⟨rest.takeWhile (· != '\'') ++ ['\''], by simp [source, closing], ?_⟩
      simp [read, List.takeWhile_append_of_pos body, List.dropWhile_append_of_pos body]
  by_cases isDouble : c = '"'
  · subst isDouble
    have shape (cs : List Char) : read '"' cs =
        (.doubleQuoted (doubleBody cs).1 (doubleBody cs).2.1, (doubleBody cs).2.2) := by
      simp [read]
    rw [shape] at ended ⊢
    refine ⟨(doubleBody rest).1 ++ closing '"' (doubleBody rest).2.1, rfl, ?_⟩
    have again := doubleBody_again rest more fun unclosed => ended (by simp [isOpen, unclosed])
    rw [List.append_assoc, shape, again]
  by_cases isBrace : c = '\x7b'
  · subst isBrace
    by_cases opens : rest.head? = some '\x7b'
    · obtain ⟨inner, rfl⟩ : ∃ inner, rest = '\x7b' :: inner := by
        cases rest with
        | nil => simp at opens
        | cons d inner => exact ⟨inner, by simpa using opens⟩
      have shape (cs : List Char) : read '\x7b' ('\x7b' :: cs) = (.braced (bracedRun cs).1, (bracedRun cs).2) := by
        simp [read]
      rw [shape] at ended ⊢
      refine ⟨'\x7b' :: (bracedRun inner).1, rfl, ?_⟩
      rw [List.cons_append, shape, bracedRun_again ended]
    · have shape {cs : List Char} (single : cs.head? ≠ some '\x7b') :
          read '\x7b' cs = (.plain '\x7b', cs) := by
        cases cs <;> simp_all [read]
      rw [shape opens] at apart ⊢
      exact ⟨[], rfl, shape (apart rfl)⟩
  · have shape (cs : List Char) : read c cs = (.plain c, cs) := by
      simp [read, isBackslash, isSingle, isDouble, isBrace]
    rw [shape]
    exact ⟨[], rfl, shape more⟩

end Segment

end ShellTemplate
