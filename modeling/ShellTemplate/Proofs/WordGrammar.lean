import ShellTemplate.Proofs.SegmentGrammar
import ShellTemplate.Proofs.TokenPlaces

namespace ShellTemplate

/-- The grammar of words: how segments are written and what they stand for. Segments that nothing closes may
only come last, and only where the input has ended. -/
inductive Word.Spells (ended : Prop) : Word → List Char → List Char → Prop
  | nil : Spells ended [] [] []
  | plain {c w text value} : Segment.isBareword c = true → (c = '\x7b' → text.head? ≠ some '\x7b') →
      Spells ended w text value → Spells ended (.plain c :: w) (c :: text) (c :: value)
  | escaped {c w text value} : Spells ended w text value →
      Spells ended (.escaped c :: w) ('\\' :: c :: text) (c :: value)
  | lastBackslash : ended → Spells ended [.lastBackslash] ['\\'] ['\\']
  | single {body w text value} : '\'' ∉ body → Spells ended w text value →
      Spells ended (.singleQuoted body true :: w) ('\'' :: (body ++ '\'' :: text)) (body ++ value)
  | openSingle {body} : ended → '\'' ∉ body → Spells ended [.singleQuoted body false] ('\'' :: body) body
  | double {body inner w text value} : Segment.Unquotes true body inner → Spells ended w text value →
      Spells ended (.doubleQuoted body true :: w) ('"' :: (body ++ '"' :: text)) (inner ++ value)
  | openDouble {body inner} : ended → Segment.Unquotes false body inner →
      Spells ended [.doubleQuoted body false] ('"' :: body) inner
  | braced {run w text value} : ¬['\x7d', '\x7d'] <:+: run ++ ['\x7d'] → Spells ended w text value →
      Spells ended (.braced (run ++ ['\x7d', '\x7d']) :: w)
        ('\x7b' :: '\x7b' :: (run ++ '\x7d' :: '\x7d' :: text))
        ('\x7b' :: '\x7b' :: (run ++ '\x7d' :: '\x7d' :: value))
  | openBraced {run} : ended → ¬['\x7d', '\x7d'] <:+: run →
      Spells ended [.braced run] ('\x7b' :: '\x7b' :: run) ('\x7b' :: '\x7b' :: run)

namespace Word

@[simp] theorem source_nil : source [] = [] := rfl

@[simp] theorem value_nil : value [] = [] := rfl

@[simp] theorem source_cons (s : Segment) (w : Word) : source (s :: w) = s.source ++ source w := List.flatMap_cons

@[simp] theorem value_cons (s : Segment) (w : Word) : value (s :: w) = s.value ++ value w := List.flatMap_cons

theorem read_nil : read [] = ([], []) :=
  read_of_stopsAt rfl

/-- What is read follows the grammar, and segments are left open only at the end. -/
theorem spells_read_cons {c : Char} {rest : List Char} (goesOn : stopsAt (c :: rest) = false)
    (tail : Spells ((read (Segment.read c rest).2).2 = []) (read (Segment.read c rest).2).1
      (read (Segment.read c rest).2).1.source (read (Segment.read c rest).2).1.value) :
    Spells ((read (c :: rest)).2 = []) (read (c :: rest)).1 (read (c :: rest)).1.source
      (read (c :: rest)).1.value := by
  rw [read_cons goesOn]
  cases Segment.opens_of_goesOn goesOn with
  | lastBackslash =>
    rw [show Segment.read '\\' [] = (.lastBackslash, []) from rfl, read_nil]
    exact .lastBackslash rfl
  | escaped => exact .escaped tail
  | single inside =>
    rw [Segment.read_single inside] at tail ⊢
    simpa [Segment.source, Segment.value, Segment.closing] using Spells.single inside tail
  | openSingle inside =>
    rw [Segment.read_openSingle inside]
    have last : Spells True _ _ _ := .openSingle trivial inside
    simpa [read_nil, Segment.source, Segment.value, Segment.closing] using last
  | double =>
    rw [Segment.read_double] at tail ⊢
    have unquotes := Segment.unquotes_doubleBody rest
    cases closed : (Segment.doubleBody rest).2.1 with
    | true =>
      rw [closed] at unquotes
      simpa [Segment.source, Segment.value, Segment.closing] using Spells.double unquotes tail
    | false =>
      rw [closed] at unquotes
      rw [Segment.rest_of_doubleBody_open closed]
      have last : Spells True _ _ _ := .openDouble trivial unquotes
      simpa [read_nil, Segment.source, Segment.value, Segment.closing] using last
  | @braced inner =>
    rw [Segment.read_braced] at tail ⊢
    rcases Segment.bracedRun_cases inner with ⟨run, split, first⟩ | ⟨ends, none⟩
    · rw [split]
      simpa [Segment.source, Segment.value] using Spells.braced first tail
    · rw [ends]
      have last : Spells True _ _ _ := .openBraced trivial none
      simpa [read_nil, Segment.source, Segment.value] using last
  | plain bareword apart =>
    rw [Segment.read_plain bareword apart] at tail ⊢
    have single : c = '\x7b' → (read rest).1.source.head? ≠ some '\x7b' := by
      intro isBrace
      cases stops : stopsAt rest with
      | true => simp [read_of_stopsAt stops]
      | false =>
        have head := @head?_source_append rest [] stops
        rw [List.append_nil] at head
        rw [head]
        exact apart isBrace
    exact .plain bareword single tail

theorem spells_read (cs : List Char) :
    Spells ((read cs).2 = []) (read cs).1 (read cs).1.source (read cs).1.value := by
  fun_induction read cs with
  | case1 => exact .nil
  | case2 => exact .nil
  | case3 c rest goesOn first more ih =>
    rw [Operator.leading?_isSome, Bool.not_eq_true] at goesOn
    have step := spells_read_cons goesOn ih
    rwa [read_cons goesOn] at step

theorem Spells.imp {p q : Prop} {w : Word} {text value : List Char} (spells : Spells p w text value)
    (imp : p → q) : Spells q w text value := by
  induction spells with
  | nil => exact .nil
  | plain bareword apart _ ih => exact .plain bareword apart ih
  | escaped _ ih => exact .escaped ih
  | lastBackslash ended => exact .lastBackslash (imp ended)
  | single inside _ ih => exact .single inside ih
  | openSingle ended inside => exact .openSingle (imp ended) inside
  | double unquotes _ ih => exact .double unquotes ih
  | openDouble ended unquotes => exact .openDouble (imp ended) unquotes
  | braced first _ ih => exact .braced first ih
  | openBraced ended none => exact .openBraced (imp ended) none

theorem stopsAt_of_opener {c : Char} (opener : c ∈ ['\\', '\'', '"', '\x7b']) (rest : List Char) :
    stopsAt (c :: rest) = false := by
  simp only [List.mem_cons, List.not_mem_nil, or_false] at opener
  rcases opener with rfl | rfl | rfl | rfl <;> simp only [stopsAt] <;> decide

/-- No text is spelled in two ways, and what is spelled is read. -/
theorem Spells.read_eq {ended : Prop} {w : Word} {text value : List Char} (spells : Spells ended w text value) :
    read text = (w, []) ∧ value = w.value := by
  induction spells with
  | nil => exact ⟨read_nil, rfl⟩
  | @plain c w text value bareword apart _ ih =>
    have goesOn : stopsAt (c :: text) = false := by
      simp [stopsAt, Segment.isBareword_iff.1 bareword]
    rw [read_cons goesOn, Segment.read_plain bareword apart, ih.1, ih.2]
    exact ⟨rfl, rfl⟩
  | @escaped c w text value _ ih =>
    rw [read_cons (stopsAt_of_opener (by simp) _)]
    change (.escaped c :: (read text).1, (read text).2) = _ ∧ _
    rw [ih.1, ih.2]
    exact ⟨rfl, rfl⟩
  | lastBackslash =>
    rw [read_cons (stopsAt_of_opener (by simp) _)]
    exact ⟨by simp [Segment.read, read_nil], rfl⟩
  | single inside _ ih =>
    rw [read_cons (stopsAt_of_opener (by simp) _), Segment.read_single inside, ih.1, ih.2]
    exact ⟨rfl, rfl⟩
  | @openSingle body _ inside =>
    rw [read_cons (stopsAt_of_opener (by simp) _), Segment.read_openSingle inside, read_nil]
    exact ⟨rfl, by simp [Segment.value]⟩
  | @double body inner w text value unquotes _ ih =>
    rw [read_cons (stopsAt_of_opener (by simp) _), unquotes.read_closed, ih.1, ih.2, unquotes.value_eq]
    exact ⟨rfl, rfl⟩
  | @openDouble body inner _ unquotes =>
    have whole := unquotes.doubleBody_eq [] fun _ => rfl
    rw [read_cons (stopsAt_of_opener (by simp) _), Segment.read_double]
    simp only [Segment.closing, Bool.false_eq_true, if_false, List.append_nil] at whole
    rw [whole, read_nil, unquotes.value_eq]
    exact ⟨rfl, by simp [Segment.value]⟩
  | braced first _ ih =>
    rw [read_cons (stopsAt_of_opener (by simp) _), Segment.read_braced, Segment.bracedRun_of_first first, ih.1, ih.2]
    exact ⟨rfl, by simp [Segment.value]⟩
  | openBraced _ none =>
    rw [read_cons (stopsAt_of_opener (by simp) _), Segment.read_braced, Segment.bracedRun_of_none none, read_nil]
    exact ⟨rfl, by simp [Segment.value]⟩

theorem Spells.source_eq {ended : Prop} {w : Word} {text value : List Char} (spells : Spells ended w text value) :
    w.source = text := by
  have whole := source_read text
  rwa [spells.read_eq.1, List.append_nil] at whole

/-- Of a word that follows the grammar only the last segment can be a quoted run that nothing closes. -/
theorem Spells.isUnterminated_iff {ended : Prop} {w : Word} {text value : List Char}
    (spells : Spells ended w text value) : w.isUnterminated = true ↔
      ∃ body, w.getLast? = some (.singleQuoted body false) ∨ w.getLast? = some (.doubleQuoted body false) := by
  have step {first : Segment} {w : Word} (closed : first.isUnterminated = false)
      (ih : w.isUnterminated = true ↔
        ∃ body, w.getLast? = some (.singleQuoted body false) ∨ w.getLast? = some (.doubleQuoted body false)) :
      isUnterminated (first :: w) = true ↔ ∃ body, (first :: w).getLast? = some (.singleQuoted body false) ∨
        (first :: w).getLast? = some (.doubleQuoted body false) := by
    rw [isUnterminated, List.any_cons, closed, Bool.false_or]
    cases w with
    | cons second w => exact ih
    | nil =>
      simp only [List.any_nil, Bool.false_eq_true, List.getLast?_singleton, Option.some.injEq, false_iff]
      rintro ⟨body, rfl | rfl⟩ <;> simp [Segment.isUnterminated] at closed
  induction spells with
  | nil => simp [isUnterminated]
  | lastBackslash => simp [isUnterminated, Segment.isUnterminated]
  | openSingle => simp [isUnterminated, Segment.isUnterminated]
  | openDouble => simp [isUnterminated, Segment.isUnterminated]
  | openBraced => simp [isUnterminated, Segment.isUnterminated]
  | plain _ _ _ ih => exact step rfl ih
  | escaped _ ih => exact step rfl ih
  | single _ _ ih => exact step rfl ih
  | double _ _ ih => exact step rfl ih
  | braced _ _ ih => exact step rfl ih

theorem token_unterminatedQuote (position : Nat) (w : Word) :
    (w.token position).flags.unterminatedQuote = w.isUnterminated :=
  (classify_cases w.shape w.isUnterminated).2.1

theorem isOpen_of_isUnterminated {w : Word} (unterminated : w.isUnterminated = true) : w.isOpen = true := by
  obtain ⟨s, member, isOpen⟩ := List.any_eq_true.1 unterminated
  refine List.any_eq_true.2 ⟨s, member, ?_⟩
  cases s <;> simp_all [Segment.isUnterminated, Segment.isOpen]

end Word

/-- Every word of a command line is a bare name in angle brackets or follows the word grammar in one way, which
gives its value. A quoted run that nothing closes is told by the flag, and ends the command line. -/
theorem Token.word_follows_grammar {command : String} {earlier later : List Token} {t : Token}
    (found : scan command = earlier ++ t :: later) (isWord : t.isSeparator = false) :
    ((∃ name dots, Text.isIdentifier name = true ∧ (dots = [] ∨ dots = ['.', '.', '.']) ∧
        t.text.toList = '<' :: (name ++ '>' :: dots) ∧ t.value = t.text ∧ t.flags.unterminatedQuote = false) ∨
      ∃ w, Word.Spells (t.span.stop = command.utf8ByteSize) w t.text.toList t.value.toList ∧
        (∀ other value, Word.Spells True other t.text.toList value → other = w ∧ value = t.value.toList) ∧
        (t.flags.unterminatedQuote = true ↔
          ∃ body, w.getLast? = some (.singleQuoted body false) ∨ w.getLast? = some (.doubleQuoted body false))) ∧
      (t.flags.unterminatedQuote = true → later = []) := by
  obtain ⟨before, rest, after, whole, begins, last⟩ := (scans_scanFrom 0 command.toList).placed earlier t later found
  rw [Nat.zero_add] at begins
  have stop : after = [] → t.span.stop = command.utf8ByteSize := by
    rintro rfl
    obtain ⟨rfl, span⟩ := begins.whole
    rw [span, ← Text.width_toList, whole, Text.width_append, List.append_nil]
  cases begins with
  | operator => simp at isWord
  | descriptor => simp at isWord
  | angled angled =>
    obtain ⟨name, dots, identifier, shape, _, _, rfl⟩ := Word.angled?_eq_some_iff.1 angled
    have plain : Word.isUnterminated (('<' :: (name ++ '>' :: dots)).map Segment.plain) = false := by
      simp [Word.isUnterminated, Segment.isUnterminated]
    refine ⟨Or.inl ⟨name, dots, identifier, shape, ?_, ?_, ?_⟩, fun unterminated => ?_⟩
    · rw [Word.token_text, Word.source_map_plain, String.toList_ofList]
    · rw [Word.token_text, Word.token_value, Word.source_map_plain, Word.value_map_plain]
    · rw [Word.token_unterminatedQuote, plain]
    · rw [Word.token_unterminatedQuote, plain] at unterminated
      cases unterminated
  | word goesOn =>
    have spells := Word.spells_read rest
    refine ⟨Or.inr ⟨(Word.read rest).1, ?_, fun other value again => ?_, ?_⟩, fun unterminated => ?_⟩
    · simpa using spells.imp stop
    · rw [Word.token_text, String.toList_ofList] at again
      obtain ⟨once, isValue⟩ := again.read_eq
      obtain ⟨twice, _⟩ := spells.read_eq
      have same : other = (Word.read rest).1 := congrArg Prod.fst (once.symm.trans twice)
      exact ⟨same, by rw [isValue, same, Word.token_value, String.toList_ofList]⟩
    · rw [Word.token_unterminatedQuote]
      exact spells.isUnterminated_iff
    · rw [Word.token_unterminatedQuote] at unterminated
      exact last (Word.rest_of_open (Word.isOpen_of_isUnterminated unterminated))

/-- A word of segments of every kind but a lone backslash, the last of them never closed. -/
theorem Token.word_follows_grammar_of_open_quote :
    let command := "a\\ b'c;d'\x7b\x7bx y\x7d\x7d\"e"
    ∃ t, scan command = [] ++ t :: [] ∧ t.isSeparator = false ∧ t.flags.unterminatedQuote = true ∧
      ∃ w, Word.Spells (t.span.stop = command.utf8ByteSize) w t.text.toList t.value.toList ∧
        ∃ body, w.getLast? = some (.singleQuoted body false) ∨ w.getLast? = some (.doubleQuoted body false) := by
  intro command
  have single : (scan command).length = 1 := by decide +kernel
  have isWord : ((scan command).all fun t => !t.isSeparator && t.flags.unterminatedQuote) = true := by decide +kernel
  obtain ⟨t, alone⟩ := List.length_eq_one_iff.1 single
  have only : scan command = [] ++ t :: [] := alone
  rw [alone, List.all_cons, List.all_nil, Bool.and_true, Bool.and_eq_true, Bool.not_eq_true'] at isWord
  obtain ⟨isWord, unterminated⟩ := isWord
  rcases (word_follows_grammar only isWord).1 with
    ⟨_, _, _, _, _, _, terminated⟩ | ⟨w, spells, _, flag⟩
  · rw [terminated] at unterminated
    cases unterminated
  · exact ⟨t, only, isWord, unterminated, w, spells, flag.1 unterminated⟩

end ShellTemplate
