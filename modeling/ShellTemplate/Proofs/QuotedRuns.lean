import ShellTemplate.Proofs.EscapedWords

namespace ShellTemplate

namespace Segment

def IsQuote (c : Char) : Prop :=
  c = '\'' ∨ c = '"'

instance (c : Char) : Decidable (IsQuote c) :=
  inferInstanceAs (Decidable (_ ∨ _))

/-- A quoted run: an opening quote, a body in which that quote does not occur unescaped, and the same quote again.
Between single quotes nothing is escaped. -/
inductive IsQuotedRun : Char → List Char → Prop
  | single {body} : '\'' ∉ body → IsQuotedRun '\'' ('\'' :: (body ++ ['\'']))
  | double {body value} : Unquotes true body value → IsQuotedRun '"' ('"' :: (body ++ ['"']))

/-- What puts a quote in front of a word once its escapes are taken away. -/
inductive Leads : Char → List Char → Prop
  | run {quote run} : IsQuotedRun quote run → Leads quote run
  | escaped {quote} : IsQuote quote → Leads quote ['\\', quote]

variable {c quote : Char} {cs run rest : List Char}

/-- A run ends at its closing quote whatever follows. -/
theorem IsQuotedRun.read_append (isRun : IsQuotedRun quote run) (rest : List Char) :
    ∃ s cs, IsQuote quote ∧ s.isUnterminated = false ∧ run ++ rest = quote :: cs ∧ read quote cs = (s, rest) := by
  cases isRun with
  | @single body inside =>
    exact ⟨.singleQuoted body true, body ++ '\'' :: rest, Or.inl rfl, rfl, by simp, read_single inside rest⟩
  | @double body value unquotes =>
    exact ⟨.doubleQuoted body true, body ++ '"' :: rest, Or.inr rfl, rfl, by simp, unquotes.read_closed rest⟩

theorem IsQuotedRun.exists_spells (isRun : IsQuotedRun quote run) : ∃ w value, Word.Spells False w run value := by
  cases isRun with
  | single inside => exact ⟨_, _, .single inside .nil⟩
  | double unquotes => exact ⟨_, _, .double unquotes .nil⟩

/-- A text begins with a quoted run exactly if its first segment is quoted and closed. -/
theorem exists_run_iff : (∃ run, IsQuotedRun quote run ∧ c :: cs = run ++ rest) ↔
    c = quote ∧ IsQuote c ∧ (read c cs).1.isUnterminated = false ∧ (read c cs).2 = rest := by
  constructor
  · rintro ⟨run, isRun, whole⟩
    obtain ⟨s, cs, isQuote, closed, opens, isRead⟩ := isRun.read_append rest
    obtain ⟨rfl, rfl⟩ := List.cons.inj (whole.trans opens)
    rw [isRead]
    exact ⟨rfl, isQuote, closed, rfl⟩
  · rintro ⟨rfl, rfl | rfl, closed, rfl⟩
    · by_cases closes : '\'' ∈ cs
      · obtain ⟨body, after, rfl, inside⟩ := List.eq_append_cons_of_mem closes
        refine ⟨_, .single inside, ?_⟩
        simp [read_single inside]
      · rw [read_openSingle closes] at closed
        contradiction
    · have unquotes := unquotes_doubleBody cs
      have whole := doubleBody_source cs
      rw [read_double] at closed ⊢
      obtain isClosed : (doubleBody cs).2.1 = true := by simpa [isUnterminated] using closed
      rw [isClosed] at unquotes whole
      refine ⟨_, .double unquotes, ?_⟩
      simpa [closing] using whole.symm

/-- Only in an unterminated run the last character depends on the escapes. -/
theorem getLast?_shape {s : Segment} (terminated : s.isUnterminated = false) :
    s.shape.getLast? = s.source.getLast? := by
  cases s with
  | plain | escaped | lastBackslash | singleQuoted | braced => rfl
  | doubleQuoted body closed =>
    obtain rfl : closed = true := by simpa [isUnterminated] using terminated
    simp only [shape, source, closing, if_true, ← List.cons_append, List.getLast?_concat]

end Segment

namespace Word

open Segment (IsQuote IsQuotedRun Leads)

variable {ended : Prop} {w : Word} {c : Char} {cs text value : List Char}

/-- The text is one quoted run and nothing else. -/
def IsQuoted (text : List Char) : Prop :=
  ∃ quote, IsQuotedRun quote text

/-- The text goes on behind a quoted run or an escaped quote, and ends with the same quote. -/
def SeemsQuoted (text : List Char) : Prop :=
  ∃ quote lead more, Leads quote lead ∧ text = lead ++ (more ++ [quote])

theorem isEnclosed_cons_iff : isEnclosed (c :: cs) = true ↔ IsQuote c ∧ cs.getLast? = some c := by
  cases cs with
  | nil => simp [isEnclosed]
  | cons d cs =>
    rw [isEnclosed, List.getLast?_cons_cons]
    simp only [List.length_cons, List.head?_cons, Bool.and_eq_true, Bool.or_eq_true, decide_eq_true_eq, beq_iff_eq,
      Option.some.injEq]
    constructor
    · rintro ⟨⟨_, isQuote⟩, last⟩
      exact ⟨isQuote.symm, last.symm⟩
    · rintro ⟨isQuote, last⟩
      exact ⟨⟨by omega, isQuote.symm⟩, last.symm⟩

theorem isQuoted_cons_iff : IsQuoted (c :: cs) ↔
    IsQuote c ∧ (Segment.read c cs).1.isUnterminated = false ∧ (Segment.read c cs).2 = [] := by
  have runs (quote : Char) := @Segment.exists_run_iff c quote cs []
  simp only [List.append_nil, exists_eq_right'] at runs
  simp only [IsQuoted, runs, exists_eq_left']

theorem seemsQuoted_cons_iff : SeemsQuoted (c :: cs) ↔
    (IsQuote c ∧ (Segment.read c cs).1.isUnterminated = false ∧ (Segment.read c cs).2.getLast? = some c) ∨
      (c = '\\' ∧ isEnclosed cs = true) := by
  constructor
  · rintro ⟨quote, lead, more, leads, whole⟩
    cases leads with
    | run isRun =>
      obtain ⟨rfl, isQuote, closed, rest⟩ := Segment.exists_run_iff.1 ⟨lead, isRun, whole⟩
      exact Or.inl ⟨isQuote, closed, List.getLast?_eq_some_iff.2 ⟨more, rest⟩⟩
    | escaped isQuote =>
      obtain ⟨rfl, rfl⟩ := List.cons.inj whole
      exact Or.inr ⟨rfl, isEnclosed_cons_iff.2 ⟨isQuote, List.getLast?_concat⟩⟩
  · rintro (⟨isQuote, closed, last⟩ | ⟨rfl, enclosed⟩)
    · obtain ⟨more, rest⟩ := List.getLast?_eq_some_iff.1 last
      obtain ⟨lead, isRun, whole⟩ := Segment.exists_run_iff.2 ⟨rfl, isQuote, closed, rest⟩
      exact ⟨c, lead, more, .run isRun, whole⟩
    · cases cs with
      | nil => contradiction
      | cons quote cs =>
        obtain ⟨isQuote, last⟩ := isEnclosed_cons_iff.1 enclosed
        obtain ⟨more, rfl⟩ := List.getLast?_eq_some_iff.1 last
        exact ⟨quote, _, more, .escaped isQuote, rfl⟩

instance : DecidablePred IsQuoted
  | [] => isFalse nofun
  | _ :: _ => decidable_of_iff _ isQuoted_cons_iff.symm

instance : DecidablePred SeemsQuoted
  | [] => isFalse (by simp [SeemsQuoted])
  | _ :: _ => decidable_of_iff _ seemsQuoted_cons_iff.symm

/-- Nothing of a quoted run that is the whole text is left to end with a quote. -/
theorem not_seemsQuoted_of_isQuoted (quoted : IsQuoted text) : ¬ SeemsQuoted text := by
  cases text with
  | nil => simp [SeemsQuoted]
  | cons c cs =>
    rw [isQuoted_cons_iff] at quoted
    rw [seemsQuoted_cons_iff]
    rintro (⟨_, _, last⟩ | ⟨rfl, _⟩)
    · rw [quoted.2.2] at last
      contradiction
    · exact absurd quoted.1 (by decide)

@[simp] theorem shape_cons (s : Segment) (w : Word) : shape (s :: w) = s.shape ++ shape w := List.flatMap_cons

theorem getLast?_shape (terminated : w.isUnterminated = false) : w.shape.getLast? = w.source.getLast? := by
  induction w with
  | nil => rfl
  | cons s w ih =>
    rw [isUnterminated, List.any_cons, Bool.or_eq_false_iff] at terminated
    rw [shape_cons, source_cons, List.getLast?_append, List.getLast?_append, ih terminated.2,
      Segment.getLast?_shape terminated.1]

theorem parameterShape?_of_quote (isQuote : IsQuote c) (cs : List Char) : parameterShape? (c :: cs) = none := by
  rcases isQuote with rfl | rfl <;> simp [parameterShape?, List.isPrefixOf]

/-- Of the words in which no quote is left open, those are taken for quoted that have the same quote at both ends of
their shape. -/
theorem classify_eq_quoted_iff {shape : List Char} {unterminated : Bool} :
    (classify shape unterminated).1 = .quoted ↔ unterminated = false ∧ isEnclosed shape = true := by
  refine ⟨(classify_cases shape unterminated).2.2.2, ?_⟩
  rintro ⟨rfl, enclosed⟩
  obtain ⟨c, cs, rfl⟩ : ∃ c cs, shape = c :: cs := List.exists_cons_of_ne_nil fun empty => by
    rw [empty] at enclosed
    contradiction
  obtain ⟨isQuote, last⟩ := isEnclosed_cons_iff.1 enclosed
  obtain ⟨noHyphen, noDot⟩ : c ≠ '-' ∧ c ≠ '.' := by rcases isQuote with rfl | rfl <;> decide
  -- the last character is the quote, so that no dots are taken away before the forms of parameters are tried
  have noDots : ['.', '.', '.'].isSuffixOf (c :: cs) = false := by
    refine Bool.eq_false_iff.2 fun dots => noDot ?_
    obtain ⟨front, whole⟩ := List.isSuffixOf_iff_suffix.1 dots
    have ends : (c :: cs).getLast? = some c := by rw [List.getLast?_cons, last, Option.getD_some]
    rw [← whole, List.getLast?_append] at ends
    exact (Option.some.inj ends).symm
  simp [classify, noHyphen, noDots, parameterShape?_of_quote isQuote, enclosed]

/-- With a quote in front and the same quote again inside, a shape is enclosed unless it goes on and ends otherwise. -/
theorem isEnclosed_append_iff (isQuote : IsQuote c) {front back : List Char} :
    isEnclosed (c :: (front ++ c :: back)) = true ↔ ∀ d ∈ back.getLast?, d = c := by
  rw [isEnclosed_cons_iff, and_iff_right isQuote, List.getLast?_append, List.getLast?_cons]
  cases back.getLast? <;> simp

/-- Behind a closed run a text is or seems quoted unless it goes on and ends otherwise. -/
theorem quoted_of_read_iff (isQuote : IsQuote c) {s : Segment} {rest : List Char}
    (isRead : Segment.read c cs = (s, rest)) (terminated : s.isUnterminated = false) :
    IsQuoted (c :: cs) ∨ SeemsQuoted (c :: cs) ↔ ∀ d ∈ rest.getLast?, d = c := by
  have noBackslash : c ≠ '\\' := by rcases isQuote with rfl | rfl <;> decide
  rw [isQuoted_cons_iff, seemsQuoted_cons_iff, isRead, ← List.getLast?_eq_none_iff]
  cases rest.getLast? <;> simp [isQuote, terminated, noBackslash]

theorem Spells.getLast?_shape (spells : Spells ended w text value) (terminated : w.isUnterminated = false) :
    w.shape.getLast? = text.getLast? := by
  rw [Word.getLast?_shape terminated, spells.source_eq]

theorem not_quoted_cons (noQuote : ¬ IsQuote c) (noBackslash : c ≠ '\\') :
    ¬ (IsQuoted (c :: cs) ∨ SeemsQuoted (c :: cs)) := by
  rw [isQuoted_cons_iff, seemsQuoted_cons_iff]
  simp [noQuote, noBackslash]

/-- The quotes at the ends of the shape of a word tell that its text is or seems quoted. -/
theorem Spells.isEnclosed_shape_iff (spells : Spells ended w text value) (terminated : w.isUnterminated = false) :
    isEnclosed w.shape = true ↔ IsQuoted text ∨ SeemsQuoted text := by
  -- a quote comes first only in a run or behind a backslash
  have neither {c : Char} {cs shape : List Char} (noQuote : ¬ IsQuote c) (noBackslash : c ≠ '\\') :
      isEnclosed (c :: shape) = true ↔ IsQuoted (c :: cs) ∨ SeemsQuoted (c :: cs) :=
    iff_of_false (fun enclosed => noQuote (isEnclosed_cons_iff.1 enclosed).1) (not_quoted_cons noQuote noBackslash)
  cases spells with
  | nil => exact iff_of_false (by decide) (by decide)
  | plain bareword =>
    obtain ⟨_, _, notSingle, notDouble, notBackslash⟩ := Segment.isBareword_iff.1 bareword
    exact neither (not_or.2 ⟨notSingle, notDouble⟩) notBackslash
  | @escaped c w text value tail =>
    have noQuote : ¬ IsQuote '\\' := by decide
    have ends := tail.getLast?_shape terminated
    rw [isQuoted_cons_iff, seemsQuoted_cons_iff, isEnclosed_cons_iff, ← ends, ← isEnclosed_cons_iff]
    simp [noQuote, Segment.shape, Segment.value]
  | lastBackslash => exact iff_of_false (by decide) (by decide)
  | @single body w text value inside tail =>
    have isQuote : IsQuote '\'' := Or.inl rfl
    have shape : shape (.singleQuoted body true :: w) = '\'' :: (body ++ '\'' :: w.shape) := by
      simp [Segment.shape, Segment.closing]
    rw [shape, isEnclosed_append_iff isQuote, quoted_of_read_iff isQuote (Segment.read_single inside text) rfl,
      tail.getLast?_shape terminated]
  | openSingle => contradiction
  | @double body inner w text value unquotes tail =>
    have isQuote : IsQuote '"' := Or.inr rfl
    have shape : shape (.doubleQuoted body true :: w) = '"' :: (Segment.unescape body ++ '"' :: w.shape) := by
      simp [Segment.shape, Segment.closing]
    rw [shape, isEnclosed_append_iff isQuote, quoted_of_read_iff isQuote (unquotes.read_closed text) rfl,
      tail.getLast?_shape terminated]
  | openDouble => contradiction
  | braced | openBraced => exact neither (by decide) (by decide)

/-- In a word that is one quoted run no quote is left open. -/
theorem Spells.isUnterminated_of_isQuoted (spells : Spells ended w text value) (quoted : IsQuoted text) :
    w.isUnterminated = false := by
  obtain ⟨quote, isRun⟩ := quoted
  obtain ⟨other, inner, closed⟩ := isRun.exists_spells
  obtain rfl : other = w := congrArg Prod.fst (closed.read_eq.1.symm.trans spells.read_eq.1)
  exact closed.isUnterminated

end Word

namespace Token

variable {command : String} {t : Token}

/-- A token follows the grammar of words, or it has nothing to do with quotes. -/
theorem spells_or_unquoted (member : t ∈ scan command) :
    (∃ start w, t = Word.token start w ∧ Word.Spells True w w.source w.value) ∨
      t.kind ≠ .quoted ∧ ¬ (Word.IsQuoted t.text.toList ∨ Word.SeemsQuoted t.text.toList) := by
  rcases cases_of_mem_scanFrom member with
    ⟨start, w, rfl, ⟨rest, _, rfl⟩ | ⟨rest, after, angled⟩⟩ | ⟨start, digits, op, rfl, digit, _⟩
  · exact Or.inl ⟨start, _, rfl, (Word.spells_read rest).imp fun _ => trivial⟩
  · obtain ⟨name, dots, _, _, _, _, rfl⟩ := Word.angled?_eq_some_iff.1 angled
    refine Or.inr ⟨fun quoted => ?_, ?_⟩
    · have enclosed := (Word.classify_eq_quoted_iff.1 quoted).2
      rw [Word.shape_map_plain, Word.isEnclosed_cons_iff] at enclosed
      exact absurd enclosed.1 (by decide)
    · rw [Word.token_text, Word.source_map_plain, String.toList_ofList]
      exact Word.not_quoted_cons (by decide) (by decide)
  · refine Or.inr ⟨nofun, ?_⟩
    rw [Operator.token_text, String.toList_ofList]
    cases digits with
    | nil => cases op <;> exact Word.not_quoted_cons (by decide) (by decide)
    | cons c digits =>
      have isDigit := (Bool.and_eq_true_iff.1 digit).1
      refine Word.not_quoted_cons ?_ ?_
      · rintro (rfl | rfl) <;> contradiction
      · rintro rfl
        contradiction

/-- A word is taken for quoted if no quote is left open in it and its text is or seems quoted. -/
theorem kind_eq_quoted_iff (member : t ∈ scan command) : t.kind = .quoted ↔
    t.flags.unterminatedQuote = false ∧ (Word.IsQuoted t.text.toList ∨ Word.SeemsQuoted t.text.toList) := by
  rcases spells_or_unquoted member with ⟨start, w, rfl, spells⟩ | ⟨otherKind, otherText⟩
  · rw [Word.token_unterminatedQuote, Word.token_text, String.toList_ofList]
    exact Word.classify_eq_quoted_iff.trans (and_congr_right spells.isEnclosed_shape_iff)
  · exact iff_of_false otherKind fun quoted => otherText quoted.2

-- An escaped quote at both ends, and a quote between braces that nothing closes.
example : (scan "\\\"a\\\" \"x\"\x7b\x7ba\"").map Token.kind = [.quoted, .quoted] := by decide +kernel

theorem unterminatedQuote_of_isQuoted (member : t ∈ scan command) (quoted : Word.IsQuoted t.text.toList) :
    t.flags.unterminatedQuote = false := by
  rcases spells_or_unquoted member with ⟨start, w, rfl, spells⟩ | ⟨_, otherText⟩
  · rw [Word.token_text, String.toList_ofList] at quoted
    rw [Word.token_unterminatedQuote, spells.isUnterminated_of_isQuoted quoted]
  · exact absurd (Or.inl quoted) otherText

/-- Every word that is one quoted run is taken for quoted. Nothing else is, exactly if no word in which all quotes are
closed seems quoted: goes on behind a quoted run or an escaped quote and ends with the same quote. -/
theorem quoted_is_enclosed_iff (command : String) :
    (∀ t ∈ scan command, Word.IsQuoted t.text.toList → t.kind = .quoted) ∧
      ((∀ t ∈ scan command, t.kind = .quoted ↔ Word.IsQuoted t.text.toList) ↔
        ∀ t ∈ scan command, t.flags.unterminatedQuote = false → ¬ Word.SeemsQuoted t.text.toList) := by
  refine ⟨fun t member quoted => ?_, forall₂_congr fun t member => ?_⟩
  · exact (kind_eq_quoted_iff member).2 ⟨unterminatedQuote_of_isQuoted member quoted, Or.inl quoted⟩
  · rw [kind_eq_quoted_iff member]
    constructor
    · intro only terminated seems
      exact Word.not_seemsQuoted_of_isQuoted (only.1 ⟨terminated, Or.inr seems⟩) seems
    · intro apart
      refine ⟨fun ⟨terminated, quoted⟩ => quoted.resolve_right (apart terminated), fun quoted => ?_⟩
      exact ⟨unterminatedQuote_of_isQuoted member quoted, Or.inl quoted⟩

/-- Two quoted runs with a letter between them: the word begins and ends with the same quote, and is taken for quoted
though its first run ends before the letter. -/
theorem quoted_of_mixed_word :
    ∃ t ∈ scan "\"a\"b\"c\"", t.kind = .quoted ∧ ¬ Word.IsQuoted t.text.toList :=
  ⟨⟨.quoted, "\"a\"b\"c\"", "abc", ⟨0, 7⟩, {}⟩, by decide +kernel, rfl, by decide +kernel⟩

end Token

end ShellTemplate
