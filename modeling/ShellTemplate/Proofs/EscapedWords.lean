import ShellTemplate.Proofs.SpacedWords
import ShellTemplate.Proofs.WordGrammar

namespace ShellTemplate

/-- The text is read as one word with the value, and no quote is left open. -/
def Token.ReadsWhole (text value : String) : Prop :=
  ∃ t, scan text = [t] ∧ t.isSeparator = false ∧ t.value = value ∧ t.flags.unterminatedQuote = false

/-- What stands in the context, with the quotes of the context. -/
def QuoteContext.enclose (context : QuoteContext) (body : String) : String :=
  match context with
  | .unquoted => body
  | .single => "'" ++ body ++ "'"
  | .double => "\"" ++ body ++ "\""

namespace Segment

variable {body inner front : List Char}

theorem unquotes_bare_append (bare : ∀ c ∈ front, Word.isBare c = true) (unquotes : Unquotes true body inner) :
    Unquotes true (front ++ body) (front ++ inner) := by
  induction front with
  | nil => exact unquotes
  | cons c front ih =>
    obtain ⟨first, later⟩ := List.forall_mem_cons.1 bare
    obtain ⟨_, _, _, notDouble, notBackslash, _⟩ := Word.isBare_iff.1 first
    exact .char notDouble (fun same => absurd same notBackslash) (ih later)

end Segment

namespace Word

variable {w : Word} {text value front back : List Char}

theorem Spells.bare_append (spells : Spells False w text value) (bare : ∀ c ∈ front, isBare c = true) :
    Spells False (front.map .plain ++ w) (front ++ text) (front ++ value) := by
  induction front with
  | nil => exact spells
  | cons c front ih =>
    obtain ⟨first, later⟩ := List.forall_mem_cons.1 bare
    obtain ⟨blank, mark, single, double, backslash, brace, _⟩ := isBare_iff.1 first
    have bareword := Segment.isBareword_iff.2 ⟨blank, mark, single, double, backslash⟩
    exact .plain bareword (fun same => absurd same brace) (ih later)

theorem spells_bare (bare : ∀ c ∈ front, isBare c = true) : Spells False (front.map .plain) front front := by
  simpa using Spells.nil.bare_append bare

/-- A single quote closes the run, is escaped, and opens the next run. -/
theorem exists_spells_escapeSingle (value : List Char) (open_ : '\'' ∉ front) (unquoted : '\'' ∉ back) :
    ∃ w, Spells False w ('\'' :: (front ++ (QuoteContext.escapeSingle value ++ (back ++ ['\'']))))
      (front ++ (value ++ back)) := by
  induction value generalizing front with
  | nil =>
    have outside : '\'' ∉ front ++ back := by simp [open_, unquoted]
    have last : Spells False _ _ _ := .single outside .nil
    exact ⟨_, by simpa [QuoteContext.escapeSingle] using last⟩
  | cons c value ih =>
    have split : QuoteContext.escapeSingle (c :: value) =
        (if c == '\'' then ['\'', '\\', '\'', '\''] else [c]) ++ QuoteContext.escapeSingle value := List.flatMap_cons
    rw [split]
    by_cases quote : c = '\''
    · obtain ⟨w, spells⟩ := ih (show '\'' ∉ [] by simp)
      refine ⟨.singleQuoted front true :: .escaped '\'' :: w, ?_⟩
      simpa [quote] using Spells.single open_ spells.escaped
    · obtain ⟨w, spells⟩ := ih (show '\'' ∉ front ++ [c] by simp [open_, Ne.symm quote])
      exact ⟨w, by simpa [quote] using spells⟩

theorem not_mem_of_bare {c : Char} (bare : ∀ c ∈ front, isBare c = true) (other : isBare c = false) : c ∉ front := by
  intro member
  rw [bare c member] at other
  contradiction

/-- What is written for a value between literal texts spells them in every context. -/
theorem exists_spells_enclose (context : QuoteContext) (value : String) {p q : String}
    (ahead : ∀ c ∈ p.toList, isBare c = true) (behind : ∀ c ∈ q.toList, isBare c = true) :
    ∃ w, Spells False w (context.enclose (p ++ context.escape value ++ q)).toList (p ++ value ++ q).toList := by
  have unquotes : Segment.Unquotes true q.toList q.toList := by
    simpa using Segment.unquotes_bare_append behind .nil
  cases context with
  | unquoted =>
    cases plain : QuoteContext.isPlain value.toList with
    | true =>
      rw [QuoteContext.escape_of_isPlain .unquoted plain]
      have bare := (spells_bare behind).bare_append (isBare_of_isPlain plain)
      exact ⟨_, by simpa [QuoteContext.enclose] using bare.bare_append ahead⟩
    | false =>
      have written := QuoteContext.escape_unquoted_of_not_isPlain plain
      have quoted := Spells.double (Segment.unquotes_escapeDouble value.toList) (spells_bare behind)
      exact ⟨_, by simpa [QuoteContext.enclose, written] using quoted.bare_append ahead⟩
  | single =>
    obtain ⟨w, spells⟩ := exists_spells_escapeSingle value.toList (not_mem_of_bare ahead (by decide))
      (not_mem_of_bare behind (by decide))
    exact ⟨w, by simpa [QuoteContext.enclose, QuoteContext.escape] using spells⟩
  | double =>
    have body := Segment.unquotes_bare_append ahead (Segment.unquotes_escapeDouble_append unquotes value.toList)
    have last : Spells False _ _ _ := .double body .nil
    exact ⟨_, by simpa [QuoteContext.enclose, QuoteContext.escape] using last⟩

theorem Spells.goesOn {ended : Prop} (spells : Spells ended w text value) (filled : text ≠ []) : stopsAt text = false := by
  cases spells with
  | nil => contradiction
  | plain bareword => simp [stopsAt, Segment.isBareword_iff.1 bareword]
  | escaped | lastBackslash | single | openSingle | double | openDouble | braced | openBraced =>
    exact stopsAt_of_opener (by simp) _

theorem Spells.value_eq_nil {ended : Prop} (spells : Spells ended w text value) (empty : text = []) : value = [] := by
  cases spells with
  | nil => rfl
  | _ => contradiction

/-- A word that is spelled with nothing left open is closed. -/
theorem Spells.isUnterminated (spells : Spells False w text value) : w.isUnterminated = false := by
  induction spells with
  | nil => rfl
  | lastBackslash ended | openSingle ended | openDouble ended | openBraced ended => exact ended.elim
  | plain _ _ _ ih | escaped _ ih | single _ _ ih | double _ _ ih | braced _ _ ih => exact ih

end Word

namespace Token

/-- What is spelled with nothing left open is read whole. -/
theorem readsWhole_of_spells {w : Word} {text value : String} (spells : Word.Spells False w text.toList value.toList)
    (filled : text ≠ "") : ReadsWhole text value := by
  have goesOn := spells.goesOn (by simpa using filled)
  obtain ⟨whole, isValue⟩ := spells.read_eq
  have scans := @Scans.word 0 text.toList [] goesOn
  rw [whole] at scans
  have alone := (scans rfl .done).eq_scanFrom.symm
  refine ⟨w.token 0, alone, Word.token_isSeparator .., ?_, ?_⟩
  · rw [Word.token_value, ← isValue, String.ofList_toList]
  · rw [Word.token_unterminatedQuote, spells.isUnterminated]

/-- Escaping is undone in every context. A value between literal texts is read back, all in one word, from what is
written for it. -/
theorem readsWhole_enclose (context : QuoteContext) (value : String) {p q : String}
    (ahead : ∀ c ∈ p.toList, Word.isBare c = true) (behind : ∀ c ∈ q.toList, Word.isBare c = true)
    (filled : context = .unquoted → p ++ value ++ q ≠ "") :
    ReadsWhole (context.enclose (p ++ context.escape value ++ q)) (p ++ value ++ q) := by
  obtain ⟨w, spells⟩ := Word.exists_spells_enclose context value ahead behind
  refine readsWhole_of_spells spells ?_
  cases context with
  | unquoted =>
    intro empty
    exact filled rfl (String.toList_eq_nil_iff.1 (spells.value_eq_nil (String.toList_eq_nil_iff.2 empty)))
  | single | double => simp [QuoteContext.enclose]

/-- A value with both quotes, blanks and operators, inside a word in single quotes. -/
theorem readsWhole_enclose_of_message :
    let value := "it's \"$5\" | x"
    QuoteContext.single.enclose ("--m=" ++ QuoteContext.single.escape value ++ ".txt") =
        "'--m=it'\\''s \"$5\" | x.txt'" ∧
      ReadsWhole (QuoteContext.single.enclose ("--m=" ++ QuoteContext.single.escape value ++ ".txt"))
        ("--m=" ++ value ++ ".txt") := by
  intro value
  have ahead : "--m=".toList.all Word.isBare = true := by decide +kernel
  have behind : ".txt".toList.all Word.isBare = true := by decide +kernel
  exact ⟨by decide +kernel,
    readsWhole_enclose .single value (List.all_eq_true.1 ahead) (List.all_eq_true.1 behind) (by decide)⟩

end Token

end ShellTemplate
