import ShellTemplate.Check.Build
import ShellTemplate.Proofs.FilledWords

namespace ShellTemplate

namespace Build

section

variable {d : Definition} {s : Selection}

/-- A selected option that takes a value and has none. -/
def isUnfilledOption (d : Definition) (s : Selection) (first : List Token) (o : CommandOption) : Bool :=
  o.hasValue && (s.selectedSpelling? o).isSome && !isSpelledIn first o &&
    (optionValue? s o (d.optionParameter? o)).isNone

theorem optionPieces_agrees (executable : s.mode = .executable) (enforced : s.validateRequired = true)
    (first : List Token) (o : CommandOption) :
    Agrees (isUnfilledOption d s first o = false) (optionPieces d s first o)
      (optionPieces d s.relaxed first o) := by
  have selected : s.relaxed.selectedSpelling? o = s.selectedSpelling? o := rfl
  have value : optionValue? s.relaxed o (d.optionParameter? o) = optionValue? s o (d.optionParameter? o) := rfl
  have alike : s.relaxed.mode = .executable := executable
  unfold optionPieces isUnfilledOption
  rw [selected]
  cases s.selectedSpelling? o with
  | none => exact (Agrees.ok _).congr (by simp)
  | some spelling =>
    cases spelled : isSpelledIn first o with
    | true => exact (Agrees.ok _).congr (by simp)
    | false =>
      cases takesValue : o.hasValue with
      | false => exact (Agrees.ok _).congr (by simp)
      | true =>
        simp only [Bool.false_eq_true, if_false, if_true]
        have text : Agrees ((optionValue? s o (d.optionParameter? o)).isNone = false) (optionText d s o)
            (optionText d s.relaxed o) := by
          unfold optionText
          simp only [executable, alike, value]
          cases optionValue? s o (d.optionParameter? o) with
          | some given => exact (Agrees.ok _).congr (by simp)
          | none =>
            simp only [enforced, if_true]
            exact (Agrees.error _ _).congr (by simp)
        exact (text.bind fun made => Agrees.ok [word spelling, word made]).congr (by simp)

/-- A required parameter that the template never mentions and that has no value. -/
def isUnfilledParameter (s : Selection) (p : Parameter) : Bool :=
  p.isRequired && ((s.value? p.name).or (fallback? s p)).isNone

theorem parameterText?_agrees (executable : s.mode = .executable) (enforced : s.validateRequired = true)
    (p : Parameter) :
    Agrees (isUnfilledParameter s p = false) (parameterText? s p) (parameterText? s.relaxed p) := by
  have value : (s.relaxed.value? p.name).or (fallback? s.relaxed p) =
      (s.value? p.name).or (fallback? s p) := rfl
  have alike : s.relaxed.mode = .executable := executable
  unfold parameterText? isUnfilledParameter
  simp only [executable, alike, value]
  cases (s.value? p.name).or (fallback? s p) with
  | some given => exact (Agrees.ok _).congr (by simp)
  | none =>
    cases required : p.isRequired with
    | false => exact (Agrees.ok _).congr (by simp)
    | true =>
      simp only [Bool.not_true, enforced, if_true]
      exact (Agrees.error _ _).congr (by simp)

end

end Build

/-- A placeholder without its place. -/
def Placeholder.label (p : Placeholder) : String × PlaceholderKind :=
  (p.name, p.kind)

/-- The tokens of the template hold the same placeholders as the template itself. -/
def Definition.IsAligned (d : Definition) : Prop :=
  (Token.scan d.command).flatMap (fun t => (Placeholder.scan t.text).map Placeholder.label) =
    (Placeholder.scan d.command).map Placeholder.label

namespace Build

variable {d : Definition} {s : Selection}

theorem isUnfilled_of_label {p q : Placeholder} (same : p.label = q.label) :
    isUnfilled d s p = isUnfilled d s q := by
  obtain ⟨name, kind, span⟩ := p
  obtain ⟨name', kind', span'⟩ := q
  obtain ⟨rfl, rfl⟩ := Prod.mk.inj same
  rfl

theorem exists_label_iff (aligned : d.IsAligned) (l : String × PlaceholderKind) :
    (∃ t ∈ Token.scan d.command, ∃ p ∈ Placeholder.scan t.text, p.label = l) ↔
      ∃ p ∈ Placeholder.scan d.command, p.label = l := by
  have same : (l ∈ (Token.scan d.command).flatMap fun t => (Placeholder.scan t.text).map Placeholder.label) ↔
      l ∈ (Placeholder.scan d.command).map Placeholder.label := by rw [aligned]
  simpa only [List.mem_flatMap, List.mem_map] using same

theorem forall_filled_iff (aligned : d.IsAligned) :
    (∀ t ∈ Token.scan d.command, ∀ p ∈ Placeholder.scan t.text, isUnfilled d s p = false) ↔
      ∀ p ∈ Placeholder.scan d.command, isUnfilled d s p = false := by
  constructor
  · intro filled p member
    obtain ⟨t, holds, q, found, same⟩ := (exists_label_iff aligned p.label).2 ⟨p, member, rfl⟩
    rw [← isUnfilled_of_label same]
    exact filled t holds q found
  · intro filled t holds p member
    obtain ⟨q, found, same⟩ := (exists_label_iff aligned p.label).1 ⟨t, holds, p, member, rfl⟩
    rw [← isUnfilled_of_label same]
    exact filled q found

theorem leftovers_eq_nil_iff :
    Check.leftovers d s = [] ↔
      (∀ p ∈ Placeholder.scan d.command, isUnfilled d s p = false) ∧
      (∀ o ∈ d.options, isUnfilledOption d s ((Token.scan d.command).takeWhile fun t => !t.isControl) o = false) ∧
      ∀ p ∈ unmentioned d, isUnfilledParameter s p = false := by
  simp only [Check.leftovers, Check.unfilledOccurrences, Check.unfilledOptions, Check.unfilledParameters,
    Text.distinct_eq_nil_iff, List.append_eq_nil_iff, List.map_eq_nil_iff, List.filter_eq_nil_iff,
    Bool.not_eq_true, and_assoc, isUnfilled, isUnfilledOption, isUnfilledParameter]

theorem isHeadWord_unflagged {t : Token} (head : isHeadWord t = true) : t.flags.isPlaceholder = false := by
  simp only [isHeadWord, Bool.and_eq_true, Bool.not_eq_true'] at head
  exact head.2

/-- A strict build has its pieces exactly if no token of the template, no option and no parameter lacks a
value, and then the lenient build has the same. -/
theorem pieces_agrees_of_filled (executable : s.mode = .executable) (enforced : s.validateRequired = true) :
    Agrees ((∀ t ∈ Token.scan d.command, ∀ p ∈ Placeholder.scan t.text, isUnfilled d s p = false) ∧
        (∀ o ∈ d.options, isUnfilledOption d s ((Token.scan d.command).takeWhile fun t => !t.isControl) o = false) ∧
        ∀ p ∈ unmentioned d, isUnfilledParameter s p = false)
      (pieces d s) (pieces d s.relaxed) := by
  let tokens := Token.scan d.command
  let first := tokens.takeWhile fun t => !t.isControl
  let others := tokens.dropWhile fun t => !t.isControl
  let head := first.takeWhile isHeadWord
  let middle := first.dropWhile isHeadWord
  have whole : tokens = head ++ (middle ++ others) := by
    rw [← List.append_assoc, List.takeWhile_append_dropWhile, List.takeWhile_append_dropWhile]
  have inMiddle : ∀ t ∈ middle, t ∈ tokens := fun t member => by simp [whole, member]
  have inOthers : ∀ t ∈ others, t ∈ tokens := fun t member => by simp [whole, member]
  have options := Agrees.mapM fun o (_ : o ∈ d.options) => @optionPieces_agrees d s executable enforced first o
  have filled : ∀ t ∈ tokens, Agrees (∀ p ∈ Placeholder.scan t.text, isUnfilled d s p = false)
      (tokenPiece d s t) (tokenPiece d s.relaxed t) := fun t => tokenPiece_agrees executable enforced
  have rest := Agrees.mapM fun t member => filled t (inMiddle t member)
  have tail := Agrees.mapM fun t member => filled t (inOthers t member)
  have parameters := Agrees.mapM fun p (_ : p ∈ unmentioned d) => parameterText?_agrees executable enforced p
  have words := addSubcommands_congr (show s.relaxed.escapeValues = s.escapeValues from rfl)
    (tokens.map (·.value)) (head.map (·.text)) s.subcommands
  have step := options.bind fun os => rest.bind fun rs => parameters.bind fun ps => tail.bind fun ts =>
    Agrees.ok ((addSubcommands s (tokens.map (·.value)) (head.map (·.text)) s.subcommands).map word ++
      os.flatten ++ rs ++ (ps.filterMap id).map word ++ ts ++ s.trailing.flatMap trailingPieces)
  unfold pieces
  dsimp only
  rw [show s.relaxed.subcommands = s.subcommands from rfl, words]
  refine step.congr ?_
  constructor
  · rintro ⟨noOption, noMiddle, noParameter, noOther, _⟩
    refine ⟨fun t member p found => ?_, noOption, noParameter⟩
    change t ∈ tokens at member
    rw [whole, List.mem_append, List.mem_append] at member
    rcases member with isHead | isMiddle | isOther
    · have inside : t ∈ Token.scan d.command := by
        change t ∈ tokens
        simp [whole, isHead]
      have unflagged := isHeadWord_unflagged (List.all_eq_true.1 List.all_takeWhile t isHead)
      simp [Token.scan_text_eq_nil inside (Or.inr unflagged)] at found
    · exact noMiddle t isMiddle p found
    · exact noOther t isOther p found
  · rintro ⟨filled, noOption, noParameter⟩
    exact ⟨noOption, fun t member => filled t (inMiddle t member), noParameter,
      fun t member => filled t (inOthers t member), trivial⟩

/-- A strict build has its pieces exactly if the lenient one leaves no placeholder behind. -/
theorem pieces_agrees (executable : s.mode = .executable) (enforced : s.validateRequired = true)
    (aligned : d.IsAligned) :
    Agrees (Check.leftovers d s = []) (pieces d s) (pieces d s.relaxed) :=
  (pieces_agrees_of_filled executable enforced).congr <| by
    rw [leftovers_eq_nil_iff, ← forall_filled_iff aligned]

end Build

end ShellTemplate
