import ShellTemplate.Proofs.EscapeReading

namespace ShellTemplate

namespace QuoteContext

theorem probe_eq_dollar {value : String} (special : isPlain value.toList = false) : probe value = "$" := by
  simp [probe, special]

theorem probe_mem (value : String) : probe value ∈ probes := by
  unfold probe
  split
  · decide
  · split
    · rename_i dots
      have same (text : String) (chars : value.toList = text.toList) : value = text := String.toList_inj.1 chars
      rcases dots with one | two | three
      · rw [same "." one]; decide
      · rw [same ".." two]; decide
      · rw [same "..." three]; decide
    · split
      · split <;> decide
      · decide

theorem probe_of_mem : ∀ value ∈ probes, probe value = value := by decide

theorem isPlain_of_mem : ∀ value ∈ probes, value ≠ "$" → isPlain value.toList = true := by decide

theorem not_blank_of_mem : ∀ value ∈ probes, Text.isBlankText value = false := by decide

theorem isPlain_probe {value : String} (plain : isPlain value.toList = true) :
    isPlain (probe value).toList = true := by
  refine isPlain_of_mem _ (probe_mem value) fun dollar => ?_
  unfold probe at dollar
  rw [plain, Bool.not_true, if_neg Bool.false_ne_true] at dollar
  split at dollar
  · rw [dollar] at plain
    exact absurd plain (by decide)
  · split at dollar
    · split at dollar <;> exact absurd dollar (by decide)
    · exact absurd dollar (by decide)

theorem ne_nil_of_not_blank {value : String} (filled : Text.isBlankText value = false) : value.toList ≠ [] := by
  intro none
  simp [Text.isBlankText, none] at filled

end QuoteContext

namespace Reading

open QuoteContext

/-- A value that is escaped for the context can be read as something else here: the reader is not inside
the quotes that the context tells, or it takes the quotes around the value for something else. -/
def isExposed (context : QuoteContext) (r : Reading) : Bool :=
  match context, r with
  | .single, .single | .double, .double => false
  | .unquoted, .escape | .unquoted, .single | .unquoted, .double | .unquoted, .braced _ => true
  | .unquoted, _ => false
  | _, _ => true

theorem step_quote {r : Reading} (covered : r.isExposed .unquoted = false) : (r.step '"').2 = double := by
  cases r with
  | dots count =>
    have step : (dots count).step '"' = if count = 0 then emit [.redirectIn] (fromPending .redirectOut '"')
        else emit [.redirectIn, .redirectOut] (fromWord '"') := by
      simp [Reading.step, show Text.isBlank '"' = false by decide]
    rw [step]
    split <;> rfl
  | pending op => cases op <;> rfl
  | escape | single | double | braced _ => exact absurd covered.symm Bool.false_ne_true
  | _ => rfl

/-- Where no value is exposed, each is read like its probe; a plain value is so everywhere. -/
theorem read_escape (r : Reading) (context : QuoteContext) {value : String} (filled : Text.isBlankText value = false)
    (covered : isPlain value.toList = false → r.isExposed context = false) :
    r.read (context.escape value).toList = r.read (context.escape (probe value)).toList := by
  have some := ne_nil_of_not_blank filled
  cases plain : isPlain value.toList with
  | true =>
    have probed := isPlain_probe plain
    have probeSome := ne_nil_of_not_blank (not_blank_of_mem _ (probe_mem value))
    rw [escape_of_isPlain context plain, escape_of_isPlain context probed, read_plain r plain some,
      read_plain r probed probeSome, afterPlain_probe r plain some]
  | false =>
    have dollar : probe value = "$" := by simp [probe, plain]
    have hidden := covered plain
    rw [dollar]
    cases context with
    | unquoted =>
      have wrapped (cs : List Char) : r.read ('"' :: (escapeDouble cs ++ ['"'])) = ((r.step '"').1, word) := by
        rw [read_cons, step_quote hidden, read_append, read_escapeDouble]
        simp [emit, read_cons, step]
      rw [escape_unquoted_of_not_isPlain plain, escape_unquoted_of_not_isPlain (by decide), wrapped, wrapped]
    | single =>
      obtain rfl : r = .single := by cases r <;> first | rfl | exact absurd hidden.symm Bool.false_ne_true
      simp only [QuoteContext.escape, String.toList_ofList, read_escapeSingle]
    | double =>
      obtain rfl : r = .double := by cases r <;> first | rfl | exact absurd hidden.symm Bool.false_ne_true
      simp only [QuoteContext.escape, String.toList_ofList, read_escapeDouble]

/-- Outside all quotes, where an operator may begin. -/
def isLoose : Reading → Bool
  | escape | single | double | doubleEscape | braced _ => false
  | _ => true

theorem step_sequence {r : Reading} (loose : r.isLoose = true) : (r.step ';').2 = pending .sequence := by
  cases r with
  | dots count =>
    have step : (dots count).step ';' = if count = 0 then emit [.redirectIn] (fromPending .redirectOut ';')
        else emit [.redirectIn, .redirectOut] (fromWord ';') := by
      simp [Reading.step, show Text.isBlank ';' = false by decide]
    rw [step]
    split <;> rfl
  | pending op => cases op <;> rfl
  | escape | single | double | doubleEscape | braced _ => exact absurd loose Bool.false_ne_true
  | _ => rfl

theorem read_sequences (count : Nat) :
    (pending .sequence).read (List.replicate count ';') = (List.replicate count .sequence, pending .sequence) := by
  induction count with
  | zero => rfl
  | succ count ih =>
    have step : (pending .sequence).step ';' = ([.sequence], pending .sequence) := rfl
    rw [List.replicate_succ, read_cons, step, ih]
    rfl

/-- As many `;` as are read outside all quotes are operators, but for the last one, which is not certain
yet. -/
theorem length_read_sequences {r : Reading} {front back : List Char} {count : Nat}
    (loose : (r.read front).2.isLoose = true) :
    count ≤ (r.read (front ++ (List.replicate (count + 1) ';' ++ back))).1.length := by
  rw [read_append, read_append, List.replicate_succ, read_cons, step_sequence loose, read_sequences]
  simp only [emit, List.length_append, List.length_replicate]
  omega

/-- What ends the quotes that the reader is in, when it is escaped for the context. -/
def opener : QuoteContext → Reading → List Char
  | .single, .doubleEscape => ['a', '"']
  | _, .doubleEscape | _, .double => ['"']
  | _, .escape => ['a']
  | _, .single => ['\'']
  | _, .braced _ => ['\x7d', '\x7d']
  | _, _ => []

theorem escapeDouble_sequences (front : List Char) (count : Nat) :
    escapeDouble (front ++ List.replicate count ';') = escapeDouble front ++ List.replicate count ';' := by
  rw [escapeDouble, List.flatMap_append]
  refine congrArg (escapeDouble front ++ ·) ?_
  induction count with
  | zero => rfl
  | succ count ih => rw [List.replicate_succ, List.flatMap_cons, ih]; rfl

theorem escapeSingle_sequences (front : List Char) (count : Nat) :
    escapeSingle (front ++ List.replicate count ';') = escapeSingle front ++ List.replicate count ';' := by
  rw [escapeSingle, List.flatMap_append]
  refine congrArg (escapeSingle front ++ ·) ?_
  induction count with
  | zero => rfl
  | succ count ih => rw [List.replicate_succ, List.flatMap_cons, ih]; rfl

/-- The opener as it is written in the context. -/
def written (context : QuoteContext) (r : Reading) : List Char :=
  match context with
  | .unquoted => '"' :: escapeDouble (opener .unquoted r)
  | .single => escapeSingle (opener .single r)
  | .double => escapeDouble (opener .double r)

theorem isLoose_written {r : Reading} {context : QuoteContext} (exposed : r.isExposed context = true) :
    (r.read (written context r)).2.isLoose = true := by
  cases context with
  | unquoted =>
    cases r with
    | escape | single | double => rfl
    | braced afterBrace => cases afterBrace <;> rfl
    | _ => exact absurd exposed Bool.false_ne_true
  | single =>
    cases r with
    | single => exact absurd exposed Bool.false_ne_true
    | braced afterBrace => cases afterBrace <;> rfl
    | _ => rfl
  | double =>
    cases r with
    | double => exact absurd exposed Bool.false_ne_true
    | braced afterBrace => cases afterBrace <;> rfl
    | _ => rfl

theorem isPlain_of_sequence {cs : List Char} (holds : ';' ∈ cs) : isPlain cs = false := by
  rw [Bool.eq_false_iff]
  intro plain
  exact absurd (List.all_eq_true.1 plain ';' holds) (by decide)

theorem escape_sequences (context : QuoteContext) (r : Reading) (count : Nat) :
    ∃ back, (context.escape (String.ofList (opener context r ++ List.replicate (count + 1) ';'))).toList =
      written context r ++ (List.replicate (count + 1) ';' ++ back) := by
  cases context with
  | unquoted =>
    have special : isPlain (String.ofList (opener .unquoted r ++ List.replicate (count + 1) ';')).toList = false := by
      rw [String.toList_ofList]
      exact isPlain_of_sequence (by simp)
    refine ⟨['"'], ?_⟩
    rw [escape_unquoted_of_not_isPlain special, String.toList_ofList, escapeDouble_sequences, List.append_assoc]
    rfl
  | single =>
    refine ⟨[], ?_⟩
    rw [QuoteContext.escape, String.toList_ofList, String.toList_ofList, escapeSingle_sequences, List.append_nil]
    rfl
  | double =>
    refine ⟨[], ?_⟩
    rw [QuoteContext.escape, String.toList_ofList, String.toList_ofList, escapeDouble_sequences, List.append_nil]
    rfl

/-- Where a value is exposed, some value brings as many operators with it as one likes. -/
theorem exists_injection {r : Reading} {context : QuoteContext} (exposed : r.isExposed context = true)
    (count : Nat) :
    ∃ value : String, isPlain value.toList = false ∧ Text.isBlankText value = false ∧
      count ≤ (r.read (context.escape value).toList).1.length := by
  let chars := opener context r ++ List.replicate (count + 1) ';'
  have holds : ';' ∈ chars := by simp [chars]
  refine ⟨String.ofList chars, ?_, ?_, ?_⟩
  · rw [String.toList_ofList]
    exact isPlain_of_sequence holds
  · rw [Text.isBlankText, String.toList_ofList, Bool.eq_false_iff]
    intro blank
    exact absurd (List.all_eq_true.1 blank ';' holds) (by decide)
  · obtain ⟨back, text⟩ := escape_sequences context r count
    rw [text]
    exact length_read_sequences (isLoose_written exposed)

end Reading

end ShellTemplate
