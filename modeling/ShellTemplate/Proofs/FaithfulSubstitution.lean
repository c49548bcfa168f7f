import Mathlib.Data.List.TakeWhile
import ShellTemplate.Proofs.FilledWords
import ShellTemplate.Proofs.TemplateWords

namespace ShellTemplate

namespace Build

theorem mapM_eq_ok_iff {α β : Type} {f : α → Except BuildError β} {xs : List α} {ys : List β} :
    xs.mapM f = .ok ys ↔ List.Forall₂ (fun x y => f x = .ok y) xs ys := by
  induction xs generalizing ys with
  | nil =>
    rw [List.mapM_nil, List.forall₂_nil_left_iff]
    exact ⟨fun same => (Except.ok.inj same).symm, fun same => by rw [same]; rfl⟩
  | cons x xs ih =>
    rw [List.mapM_cons, bind_eq_ok_iff, List.forall₂_cons_left_iff]
    constructor
    · rintro ⟨y, first, made⟩
      obtain ⟨rest, others, same⟩ := bind_eq_ok_iff.1 made
      exact ⟨y, rest, first, ih.1 others, (Except.ok.inj same).symm⟩
    · rintro ⟨y, rest, first, others, rfl⟩
      exact ⟨y, first, bind_eq_ok_iff.2 ⟨rest, ih.2 others, rfl⟩⟩

/-- Where no element makes anything, nothing is made together. -/
theorem mapM_eq_nothing {α β : Type} {f : α → Except BuildError (List β)} {xs : List α} (each : ∀ x ∈ xs, f x = .ok []) :
    ∃ yss, xs.mapM f = .ok yss ∧ yss.flatten = [] := by
  refine ⟨xs.map fun _ => [], ?_, by simp⟩
  rw [mapM_eq_ok_iff, List.forall₂_map_right_iff, List.forall₂_same]
  exact each

section

variable {d : Definition} {s : Selection}

theorem tokenPiece_of_isHeadWord {t : Token} (head : isHeadWord t = true) : tokenPiece d s t = .ok (word t.text) := by
  obtain ⟨isWord, plain⟩ := Bool.and_eq_true_iff.1 head
  have operator : t.isSeparator = false := by
    cases kind : t.kind <;> simp_all [Token.isWord, Token.isSeparator]
  rw [tokenPiece, operator, wordText, plain]
  rfl

theorem tokenPiece_of_separator {t : Token} {p : Piece} (separator : t.isSeparator = true) (made : tokenPiece d s t = .ok p) :
    p = t.piece := by
  rw [tokenPiece, if_pos separator] at made
  rw [← Except.ok.inj made, Token.piece, separator]

theorem tokenPiece_of_word {t : Token} {p : Piece} (plain : t.isSeparator = false) (made : tokenPiece d s t = .ok p) :
    ∃ text, wordText d s t = .ok text ∧ p = word text := by
  rw [tokenPiece, plain] at made
  cases text : wordText d s t with
  | error e => simp [text, Except.map] at made
  | ok text' => exact ⟨text', rfl, by simpa [text, Except.map] using made.symm⟩

theorem optionPieces_of_unselected (noOptions : s.options = {}) (first : List Token) (o : CommandOption) :
    optionPieces d s first o = .ok [] := by
  have unselected : s.selectedSpelling? o = none := by
    refine List.find?_eq_none.2 fun flag _ => ?_
    rw [Selection.isSelected, noOptions]
    exact Bool.false_ne_true
  rw [optionPieces, unselected]

theorem mapM_of_heads {ts : List Token} (heads : ∀ t ∈ ts, isHeadWord t = true) :
    ts.mapM (tokenPiece d s) = .ok ((ts.map (·.text)).map word) := by
  rw [mapM_eq_ok_iff, List.map_map, List.forall₂_map_right_iff, List.forall₂_same]
  exact fun t member => tokenPiece_of_isHeadWord (heads t member)

/-- The tokens of the template up to its first control operator. -/
def firstTokens (d : Definition) : List Token :=
  (Token.scan d.command).takeWhile fun t => !t.isControl

/-- The tokens of the template from its first control operator on. -/
def otherTokens (d : Definition) : List Token :=
  (Token.scan d.command).dropWhile fun t => !t.isControl

theorem firstTokens_append_otherTokens (d : Definition) : firstTokens d ++ otherTokens d = Token.scan d.command :=
  List.takeWhile_append_dropWhile

/-- If nothing is selected, the tokens of the template stay in their order, and the parameters that it never mentions
stand behind those of its first component. -/
theorem pieces_eq_ok_iff {ps : List Piece} (noSubcommands : s.subcommands = []) (noOptions : s.options = {})
    (noTrailing : s.trailing = []) :
    pieces d s = .ok ps ↔ ∃ first texts others, (firstTokens d).mapM (tokenPiece d s) = .ok first ∧
      (unmentioned d).mapM (parameterText? s) = .ok texts ∧ (otherTokens d).mapM (tokenPiece d s) = .ok others ∧
      ps = first ++ (texts.filterMap id).map word ++ others := by
  have heads := @mapM_of_heads d s ((firstTokens d).takeWhile isHeadWord) fun t member =>
    List.all_eq_true.1 List.all_takeWhile t member
  have words : (firstTokens d).mapM (tokenPiece d s) = (do
      let rest ← ((firstTokens d).dropWhile isHeadWord).mapM (tokenPiece d s)
      return (((firstTokens d).takeWhile isHeadWord).map (·.text)).map word ++ rest) := by
    conv_lhs => rw [← List.takeWhile_append_dropWhile (p := isHeadWord) (l := firstTokens d)]
    rw [List.mapM_append, heads]
    rfl
  obtain ⟨options, unselected, nothing⟩ := mapM_eq_nothing fun o (_ : o ∈ d.options) =>
    @optionPieces_of_unselected d s noOptions (firstTokens d) o
  unfold pieces
  dsimp only
  rw [noSubcommands, noTrailing, addSubcommands]
  change (d.options.mapM (optionPieces d s (firstTokens d)) >>= _) = _ ↔ _
  rw [unselected, words]
  constructor
  · intro made
    obtain ⟨_, selected, made⟩ := bind_eq_ok_iff.1 made
    obtain ⟨rest, restMade, made⟩ := bind_eq_ok_iff.1 made
    obtain ⟨texts, textsMade, made⟩ := bind_eq_ok_iff.1 made
    obtain ⟨others, othersMade, made⟩ := bind_eq_ok_iff.1 made
    cases Except.ok.inj selected
    refine ⟨_, texts, others, bind_eq_ok_iff.2 ⟨rest, restMade, rfl⟩, textsMade, othersMade, ?_⟩
    rw [← Except.ok.inj made, nothing, List.flatMap_nil, List.append_nil, List.append_nil]
    rfl
  · rintro ⟨first, texts, others, firstMade, textsMade, othersMade, rfl⟩
    obtain ⟨rest, restMade, made⟩ := bind_eq_ok_iff.1 firstMade
    refine bind_eq_ok_iff.2 ⟨_, rfl, bind_eq_ok_iff.2 ⟨rest, restMade, bind_eq_ok_iff.2 ⟨texts, textsMade,
      bind_eq_ok_iff.2 ⟨others, othersMade, ?_⟩⟩⟩⟩
    rw [← Except.ok.inj made, nothing, List.flatMap_nil, List.append_nil, List.append_nil]
    rfl

/-- The words of a template without operators are followed by the parameters that it never mentions. -/
theorem pieces_of_unselected {ps : List Piece} (noSubcommands : s.subcommands = []) (noOptions : s.options = {})
    (noTrailing : s.trailing = []) (plain : ∀ t ∈ Token.scan d.command, t.isSeparator = false)
    (made : pieces d s = .ok ps) :
    ∃ words texts, (Token.scan d.command).mapM (tokenPiece d s) = .ok words ∧
      (unmentioned d).mapM (parameterText? s) = .ok texts ∧ ps = words ++ (texts.filterMap id).map word := by
  have uncontrolled : ∀ t ∈ Token.scan d.command, (!t.isControl) = true := fun t member => by
    simp [Token.isControl, plain t member]
  obtain ⟨first, texts, others, firstMade, textsMade, othersMade, rfl⟩ :=
    (pieces_eq_ok_iff noSubcommands noOptions noTrailing).1 made
  rw [firstTokens, List.takeWhile_eq_self_iff.2 uncontrolled] at firstMade
  rw [otherTokens, List.dropWhile_eq_nil_iff.2 uncontrolled] at othersMade
  cases Except.ok.inj othersMade
  exact ⟨first, texts, firstMade, textsMade, List.append_nil _⟩

/-- The value of a parameter that the template never mentions. -/
def ownValue? (s : Selection) (p : Parameter) : Option String :=
  (s.value? p.name).or (fallback? s p)

theorem ownValue?_ne_empty {p : Parameter} {value : String} (own : ownValue? s p = some value) : value ≠ "" := by
  rintro rfl
  rcases Option.or_eq_some_iff.1 own with given | ⟨_, declared⟩
  · have filled := (Option.filter_eq_some_iff.1 given).2
    contradiction
  · unfold fallback? at declared
    split at declared
    · have filled := (Option.filter_eq_some_iff.1 declared).2
      contradiction
    · contradiction

section

variable (executable : s.mode = .executable) (escapes : s.escapeValues = true) (enforced : s.validateRequired = true)

include executable escapes enforced

theorem parameterText?_eq_ok {p : Parameter} {text? : Option String} (made : parameterText? s p = .ok text?) :
    text? = (ownValue? s p).map QuoteContext.unquoted.escape := by
  unfold parameterText? at made
  unfold ownValue?
  simp only [executable, enforced] at made
  cases own : (s.value? p.name).or (fallback? s p) with
  | some value => simpa [own, escaped, escapes] using made.symm
  | none =>
    cases required : p.isRequired with
    | false => simpa [own, required] using made.symm
    | true => simp [own, required] at made

/-- The words of the parameters that the template never mentions. -/
theorem writes_parameters {ps : List Parameter} {texts : List (Option String)}
    (made : ps.mapM (parameterText? s) = .ok texts) :
    List.Forall₂ Word.Writes (texts.filterMap id) (ps.filterMap (ownValue? s)) := by
  have each := mapM_eq_ok_iff.1 made
  clear made
  induction each with
  | nil => exact .nil
  | @cons p text? ps texts first _ ih =>
    rw [parameterText?_eq_ok executable escapes enforced first]
    cases own : ownValue? s p with
    | none => simpa [own] using ih
    | some value => simpa [own] using ⟨Word.writes_escape value, ih⟩

end

end

end Build

theorem QuoteContext.atByte_zero (text : String) : atByte text 0 = .unquoted := by
  unfold atByte
  cases text.toList with
  | nil => rfl
  | cons c rest => cases rest <;> rfl

namespace TemplateWord

open Build

/-- What a word stands for in a build: a literal for itself, and a placeholder for the given value, else for the
default that it is written with, else for the default of its parameter. Without any of them the text is empty. -/
def resolved (d : Definition) (s : Selection) : TemplateWord → String
  | .literal text => text
  | .placeholder name (.defaulted text) => (s.value? name).getD (if s.useDefaults then text else "")
  | .placeholder name _ => ((s.value? name).or ((d.findParameter? name).bind (fallback? s))).getD ""

theorem resolved_placeholder (d : Definition) (s : Selection) (name : String) (kind : PlaceholderKind) (span : Span) :
    resolved d s (.placeholder name kind) = (occurrenceValue? s ⟨name, kind, span⟩ (d.findParameter? name)).getD "" := by
  unfold occurrenceValue?
  dsimp only
  cases kind with
  | required | optional =>
    simp only [resolved, Placeholder.inlineDefault?, Option.none_or]
    cases d.findParameter? name <;> simp [fallback?]
  | defaulted text =>
    simp only [resolved, Placeholder.inlineDefault?, Option.some_or]
    cases s.value? name <;> cases s.useDefaults <;> rfl

section

variable {d : Definition} {s : Selection} (executable : s.mode = .executable) (escapes : s.escapeValues = true)
  (enforced : s.validateRequired = true)

include escapes enforced

theorem writes_occurrence {word name text : String} {kind : PlaceholderKind} {stop : Nat}
    (made : occurrenceText d s word ⟨name, kind, ⟨0, stop⟩⟩ = .ok text) :
    Word.Writes text (resolved d s (.placeholder name kind)) := by
  unfold occurrenceText at made
  rw [resolved_placeholder d s name kind ⟨0, stop⟩]
  dsimp only at made
  cases value : occurrenceValue? s ⟨name, kind, ⟨0, stop⟩⟩ (d.findParameter? name) with
  | some given =>
    simp only [value, escaped, escapes, QuoteContext.atByte_zero, if_true, Except.ok.injEq] at made
    exact made ▸ Word.writes_escape given
  | none =>
    simp only [value, enforced, if_true] at made
    split at made
    · exact Or.inl ⟨(Except.ok.inj made).symm, rfl⟩
    · contradiction

include executable

theorem writes_wordText {w : TemplateWord} (wellFormed : w.IsWellFormed) {start : Nat} {text : String}
    (made : wordText d s (w.word.token start) = .ok text) : Word.Writes text (w.resolved d s) := by
  have flagged := isPlaceholder_token wellFormed start
  unfold wordText at made
  rw [flagged, text_token, executable] at made
  cases w with
  | literal literal =>
    have itself := Except.ok.inj made
    rw [source, String.ofList_toList] at itself
    subst itself
    exact Or.inr ⟨wellFormed.1, _, readsAs_source wellFormed, Word.value_map_plain literal.toList⟩
  | placeholder name kind =>
    have leads := Placeholder.leading?_written wellFormed []
    rw [List.append_nil] at leads
    change fillFrom d s _ 0 (String.ofList (Placeholder.written name kind)).toList = .ok text at made
    rw [String.toList_ofList, fillFrom_of_leading? leads] at made
    obtain ⟨filled, occurrence, made⟩ := bind_eq_ok_iff.1 made
    rw [fillFrom_nil] at made
    rw [← Except.ok.inj made, String.append_empty]
    exact writes_occurrence escapes enforced occurrence

/-- The words of a template are written as they are resolved. -/
theorem writes_pieces {ts : List Token} {ws : List TemplateWord} {ps : List Piece}
    (tokens : List.Forall₂ (fun t w => IsWellFormed w ∧ ∃ start, t = w.word.token start) ts ws)
    (made : ts.mapM (tokenPiece d s) = .ok ps) :
    ∃ texts, ps = texts.map Build.word ∧ List.Forall₂ Word.Writes texts (ws.map (resolved d s)) := by
  have each := mapM_eq_ok_iff.1 made
  clear made
  induction tokens generalizing ps with
  | nil =>
    cases each
    exact ⟨[], rfl, .nil⟩
  | @cons t w ts ws first _ ih =>
    obtain ⟨wellFormed, start, rfl⟩ := first
    cases each with
    | @cons _ p _ ps piece others =>
      obtain ⟨texts, rfl, writes⟩ := ih others
      obtain ⟨text, written, rfl⟩ := tokenPiece_of_word (Word.token_isSeparator start w.word) piece
      exact ⟨text :: texts, rfl, .cons (writes_wordText executable escapes enforced wellFormed written) writes⟩

end

end TemplateWord

namespace Definition

/-- The parameters that are no word of the template and no option's value. -/
def unreferenced (d : Definition) (ws : List TemplateWord) : List Parameter :=
  d.parameters.filter fun p => p.parentOption?.isNone && !(ws.filterMap TemplateWord.name?).contains p.name

theorem unmentioned_eq {d : Definition} {ws : List TemplateWord} (laidOut : TemplateWord.LaidOut d.command.toList ws) :
    Build.unmentioned d = d.unreferenced ws := by
  have names := laidOut.names 0
  refine List.filter_congr fun p _ => ?_
  rw [Placeholder.names, Text.contains_distinct, Placeholder.scan, names]

/-- A build puts each value into its place. If nothing is selected, the built command is read as the words of the
template, each one as itself or as its value, and behind them the values of the parameters that the template does
not mention. Words whose value is empty are left out. -/
theorem meaning_build {d : Definition} {s : Selection} {ws : List TemplateWord} {built : String}
    (laidOut : TemplateWord.LaidOut d.command.toList ws) (executable : s.mode = .executable)
    (escapes : s.escapeValues = true) (enforced : s.validateRequired = true) (noSubcommands : s.subcommands = [])
    (noOptions : s.options = {}) (noTrailing : s.trailing = []) (done : d.build s = .ok (some built)) :
    (Token.scan built).map Token.meaning =
      ((ws.map (·.resolved d s)).filter (fun value => !value.isEmpty) ++
        (d.unreferenced ws).filterMap (Build.ownValue? s)).map (false, ·) := by
  obtain ⟨_, ps, pieces, same⟩ := (Build.build_eq_ok_iff executable).1 done
  cases Option.some.inj same
  obtain ⟨words, texts, wordsMade, textsMade, rfl⟩ :=
    Build.pieces_of_unselected noSubcommands noOptions noTrailing (laidOut.plain 0) pieces
  obtain ⟨wordTexts, rfl, wordsWrite⟩ := TemplateWord.writes_pieces executable escapes enforced
    (laidOut.tokens 0) wordsMade
  have parametersWrite := Build.writes_parameters executable escapes enforced textsMade
  rw [unmentioned_eq laidOut] at parametersWrite
  have whole := Word.meaning_scan_join (List.rel_append wordsWrite parametersWrite)
  rw [List.map_append] at whole
  rw [whole, List.filter_append]
  congr 2
  refine List.filter_eq_self.2 fun value member => ?_
  obtain ⟨p, _, own⟩ := List.mem_filterMap.1 member
  simpa using Build.ownValue?_ne_empty own

/-- Values with quotes and operators, a default with a blank, a placeholder without a value, and a parameter that
the template never mentions. -/
theorem meaning_build_of_copy :
    let d : Definition :=
      { name := "copy", command := "cp \x7b\x7bfrom\x7d\x7d \x7b\x7bto:my file\x7d\x7d \x7b\x7bflag?\x7d\x7d"
        parameters := [{ name := "from" }, { name := "last", default? := some "a;b" }] }
    let s : Selection :=
      { mode := .executable, parameterValues := SortedList.empty.insert ("from", "it's \"$5\" | x") }
    ∃ built, d.build s = .ok (some built) ∧
      (Token.scan built).map Token.meaning =
        [(false, "cp"), (false, "it's \"$5\" | x"), (false, "my file"), (false, "a;b")] := by
  intro d s
  let source : TemplateWord := .placeholder "from" .required
  let target : TemplateWord := .placeholder "to" (.defaulted "my file")
  let flag : TemplateWord := .placeholder "flag" .optional
  have laidOut : TemplateWord.LaidOut d.command.toList [.literal "cp", source, target, flag] := by
    have written : d.command.toList = [] ++ ((TemplateWord.literal "cp").source ++ ([' '] ++ (source.source ++
        ([' '] ++ (target.source ++ ([' '] ++ (flag.source ++ []))))))) := by decide +kernel
    rw [written]
    refine .word rfl ⟨by decide, List.all_eq_true.1 (by decide +kernel)⟩ rfl (.word rfl ⟨by decide +kernel, nofun⟩ rfl
      (.word rfl ⟨by decide +kernel, ?_⟩ rfl (.word rfl ⟨by decide +kernel, nofun⟩ rfl (.done rfl))))
    rintro _ ⟨⟩
    decide +kernel
  have done : d.build s = .ok (some "cp \"it's \\\"\\$5\\\" | x\" \"my file\" \"a;b\"") :=
    Build.eq_ok_of_toOption (by decide +kernel)
  exact ⟨_, done, (meaning_build laidOut rfl rfl rfl rfl rfl rfl done).trans (by decide +kernel)⟩

end Definition

end ShellTemplate
