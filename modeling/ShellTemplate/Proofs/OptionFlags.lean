import ShellTemplate.Proofs.BuildAgreement
import ShellTemplate.Proofs.DryRun
import ShellTemplate.Proofs.GatheredWords
import ShellTemplate.Proofs.RepeatedChecks
import ShellTemplate.Proofs.TokenTiles

namespace ShellTemplate

namespace Text

variable {cs : List Char}

/-- One hyphen at the beginning and another one behind. -/
def isHyphenated : List Char → Bool
  | '-' :: '-' :: _ => false
  | '-' :: rest => rest.contains '-'
  | _ => false

theorem isFlagName_of_isFlag (flag : isFlag cs = true) :
    (∃ name, cs = '-' :: name ∧ isFlagName name = true ∧ name.head? ≠ some '-') ∨
      ∃ name, cs = '-' :: '-' :: name ∧ isFlagName name = true := by
  unfold isFlag at flag
  split at flag
  · exact Or.inr ⟨_, rfl, flag⟩
  · rename_i name single
    refine Or.inl ⟨name, rfl, flag, fun first => ?_⟩
    obtain ⟨rest, rfl⟩ := List.head?_eq_some_iff.1 first
    exact single rest rfl
  · contradiction

/-- The characters of a flag are hyphens, letters and digits. -/
theorem isNameChar_of_isFlag (flag : isFlag cs = true) {c : Char} (member : c ∈ cs) :
    c = '-' ∨ c.isAlphanum = true := by
  have inside {name : List Char} (named : isFlagName name = true) (member : c ∈ name) :
      c = '-' ∨ c.isAlphanum = true := by
    cases name with
    | nil => contradiction
    | cons first rest =>
      simp only [isFlagName, Bool.and_eq_true, List.all_eq_true, Bool.or_eq_true, beq_iff_eq] at named
      rcases List.mem_cons.1 member with rfl | later
      · exact Or.inr (by simp [Char.isAlphanum, named.1])
      · exact (named.2 c later).symm
  rcases isFlagName_of_isFlag flag with ⟨name, rfl, named, _⟩ | ⟨name, rfl, named⟩
  · rcases List.mem_cons.1 member with rfl | later
    · exact Or.inl rfl
    · exact inside named later
  · rcases List.mem_cons.1 member with rfl | later
    · exact Or.inl rfl
    · rcases List.mem_cons.1 later with rfl | last
      · exact Or.inl rfl
      · exact inside named last

/-- The characters that escape, quote, open a placeholder or end a flag. -/
def specialChars : List Char :=
  ['\\', '\'', '"', '\x7b', '=']

theorem not_special_of_isFlag (flag : isFlag cs = true) {c : Char} (member : c ∈ cs) :
    c ∉ specialChars := by
  intro special
  simp only [specialChars, List.mem_cons, List.not_mem_nil, or_false] at special
  rcases isNameChar_of_isFlag flag member with rfl | alphanumeric
  · revert special
    decide
  · rcases special with rfl | rfl | rfl | rfl | rfl <;> exact absurd alphanumeric (by decide)

theorem isDecimalDigit_of_isAlpha {c : Char} (letter : c.isAlpha = true) : isDecimalDigit c = false := by
  have bounds := toNat_of_isAlpha letter
  refine Bool.eq_false_iff.2 fun digit => ?_
  simp only [isDecimalDigit, Char.isDigit, Bool.or_eq_true, Bool.and_eq_true, decide_eq_true_eq] at digit
  rcases digit with ⟨_, high⟩ | ⟨wide, _⟩
  · have small : c.toNat ≤ 57 := high
    omega
  · omega

/-- What begins with a letter is no number. -/
theorem isNumber_of_isAlpha {c : Char} {rest : List Char} (letter : c.isAlpha = true) :
    (match splitFirst? (· == '.') (c :: rest) with
      | some (whole, fraction) => isDigits whole && isDigits fraction
      | none => isDigits (c :: rest)) = false := by
  have noDigit := isDecimalDigit_of_isAlpha letter
  have noPoint : (c == '.') = false := by
    refine beq_false_of_ne ?_
    rintro rfl
    exact absurd letter (by decide)
  simp only [splitFirst?, noPoint, Bool.false_eq_true, if_false]
  cases splitFirst? (· == '.') rest <;> simp [isDigits, noDigit]

theorem all_isAlphanum_eq (each : ∀ c ∈ cs, c = '-' ∨ c.isAlphanum = true) :
    cs.all Char.isAlphanum = !cs.contains '-' := by
  have hyphen : '-'.isAlphanum = false := by decide
  induction cs with
  | nil => rfl
  | cons c rest ih =>
    obtain ⟨first, later⟩ := List.forall_mem_cons.1 each
    rw [List.all_cons, ih later, List.contains_cons, Bool.not_or]
    congr 1
    rcases first with rfl | alphanumeric
    · decide
    · have other : c ≠ '-' := by
        rintro rfl
        contradiction
      rw [alphanumeric, beq_false_of_ne other.symm]
      rfl

theorem splitFirst?_of_not_mem {mark : Char} (absent : mark ∉ cs) : splitFirst? (· == mark) cs = none := by
  induction cs with
  | nil => rfl
  | cons c rest ih =>
    rw [List.mem_cons, not_or] at absent
    simp [splitFirst?, beq_false_of_ne (Ne.symm absent.1), ih absent.2]

theorem holdsRun_of_not_mem {mark : Char} {run : List Char} (absent : mark ∉ cs) :
    holdsRun (mark :: run) cs = false := by
  induction cs with
  | nil => rfl
  | cons c rest ih =>
    rw [List.mem_cons, not_or] at absent
    simp [holdsRun, List.isPrefixOf, beq_false_of_ne absent.1, ih absent.2]

end Text

/-- The spellings of all options. -/
def Definition.spellings (d : Definition) : List String :=
  d.options.flatMap (·.spellings)

namespace Check

/-- A flag is an option token unless it is hyphenated. -/
theorem isOptionFlag_of_isFlag {cs : List Char} (flag : Text.isFlag cs = true) :
    isOptionFlag cs = !Text.isHyphenated cs := by
  have each {c : Char} (member : c ∈ cs) := Text.isNameChar_of_isFlag flag member
  rcases Text.isFlagName_of_isFlag flag with ⟨name, rfl, named, single⟩ | ⟨name, rfl, named⟩
  · cases name with
    | nil => contradiction
    | cons c rest =>
      have letter : c.isAlpha = true := (Bool.and_eq_true_iff.1 named).1
      have other : c ≠ '-' := fun same => single (by rw [same]; rfl)
      have whole := Text.all_isAlphanum_eq fun x member => each (List.mem_cons_of_mem _ member)
      have noNumber := @Text.isNumber_of_isAlpha c rest letter
      have hyphenated : Text.isHyphenated ('-' :: c :: rest) = (c :: rest).contains '-' := by
        simp [Text.isHyphenated, other]
      rw [hyphenated, ← whole]
      unfold isOptionFlag
      split
      · rename_i second
        cases second
        contradiction
      · rename_i same
        cases same
        exact (congrArg ((c :: rest).all Char.isAlphanum || ·) noNumber).trans (Bool.or_false _)
      · rename_i none
        exact absurd rfl (none _)
  · simp [isOptionFlag, Text.isHyphenated, named]

end Check

/-- A word without backslashes, quotes and braces stands for itself. -/
theorem Word.value_eq_source {w : Word} (plain : ∀ c ∈ w.source, c ∉ Text.specialChars) :
    w.value = w.source := by
  have each : ∀ s ∈ w, s.value = s.source := by
    intro s member
    have own : ∀ c ∈ s.source, c ∉ Text.specialChars := fun c inside =>
      plain c (List.mem_flatMap.2 ⟨s, member, inside⟩)
    cases s with
    | plain c => rfl
    | escaped | lastBackslash | singleQuoted | doubleQuoted | braced =>
      exact absurd (by decide) (own _ List.mem_cons_self)
  rw [Word.value, Word.source, List.flatMap_def, List.flatMap_def, List.map_congr_left each]

/-- A word that is written like a flag is that flag. -/
theorem Token.value_of_isFlag {command : String} {t : Token} (member : t ∈ scan command) (word : t.isSeparator = false)
    (flag : Text.isFlag t.text.toList = true) : t.value = t.text := by
  rcases cases_of_mem_scanFrom member with ⟨start, w, rfl, _⟩ | ⟨start, digits, op, rfl, _⟩
  · change Text.isFlag (String.ofList w.source).toList = true at flag
    rw [String.toList_ofList] at flag
    exact congrArg String.ofList (Word.value_eq_source fun c => Text.not_special_of_isFlag flag)
  · contradiction

/-- The options of the component are option tokens among its tokens. -/
def Component.OptionsStand (c : Component) : Prop :=
  ∀ t ∈ c.options, t ∈ c.tokens ∧ t.kind = .option

namespace Component.OptionsStand

variable {c : Component}

theorem empty : OptionsStand {} := fun _ member => absurd member List.not_mem_nil

theorem addWord (stand : c.OptionsStand) (t : Token) : (c.addWord t).OptionsStand := by
  intro u member
  rw [tokens_addWord, List.mem_append, List.mem_singleton]
  have own : u ∈ c.options ∨ u = t ∧ t.kind = .option := by
    unfold Component.addWord at member
    cases kind : t.kind with
    | option =>
      rw [kind] at member
      exact (List.mem_append.1 member).imp_right fun last => ⟨List.mem_singleton.1 last, rfl⟩
    | argument | path =>
      rw [kind] at member
      dsimp only at member
      split at member
      · exact Or.inl member
      · split at member <;> exact Or.inl member
    | parameter | separator | quoted =>
      rw [kind] at member
      exact Or.inl member
  rcases own with old | ⟨rfl, kind⟩
  · exact (stand u old).imp_left Or.inl
  · exact ⟨Or.inr rfl, kind⟩

theorem addRedirect (stand : c.OptionsStand) (r : Redirect) : (c.addRedirect r).OptionsStand := fun u member =>
  (stand u member).imp_left fun inside => List.mem_append_left _ inside

/-- What is gathered keeps its options among its tokens. -/
theorem gather (es : List Element) : ∀ c ∈ Component.gather {} es, c.OptionsStand :=
  (forall_mem_gather empty (fun _ t stand => addWord stand t) (fun _ r stand => addRedirect stand r)
    (fun _ _ stand => stand) (fun _ _ stand => stand) es).1 _ empty

end Component.OptionsStand

/-- The options of a command line are words of it. -/
theorem Structure.mem_scan_of_mem_options {command : String} {t : Token} (member : t ∈ (ofCommand command).options) :
    t ∈ Token.scan command ∧ t.isSeparator = false := by
  obtain ⟨c, inside, option⟩ := List.mem_flatMap.1 member
  have kind := (Component.OptionsStand.gather _ c inside t option).2
  have word : t ∈ (Component.gather {} (Element.ofTokens (Token.scan command))).flatMap Component.words :=
    List.mem_flatMap.2 ⟨c, inside, by simp [Component.words, option]⟩
  have gathered := (Component.mem_of_mem_gather fun e => Element.isPlain_of_mem).1 {} word
  have held := gathered.resolve_left (by simp [Component.words])
  exact ⟨Element.mem_of_mem_tokens held, by simp [Token.isSeparator, kind]⟩

namespace Check

open Report

/-- A word that is written like a flag is well formed unless it is hyphenated. -/
theorem isWellFormedOption_of_isFlag {t : Token} (value : t.value = t.text)
    (flag : Text.isFlag t.text.toList = true) : isWellFormedOption t = !Text.isHyphenated t.text.toList := by
  have absent (mark : Char) (special : mark ∈ Text.specialChars) : mark ∉ t.text.toList := fun member =>
    Text.not_special_of_isFlag flag member special
  have whole : t.inlineParts? = none := by
    unfold Token.inlineParts?
    rw [value, Text.splitFirst?_of_not_mem (absent '=' (by decide))]
    cases t.isOption <;> rfl
  have own : t.flag = t.text := by
    rw [Token.flag, whole]
    exact value
  unfold isWellFormedOption Token.inlineValue?
  dsimp only
  rw [own, whole, Text.holdsRun_of_not_mem (absent '\x7b' (by decide)), Bool.false_or]
  exact isOptionFlag_of_isFlag flag

/-- A flag is reported where an option is written like it that is not well formed. -/
theorem options_errorsAre_iff {f : String} (seen : List String) (ts : List Token) :
    ErrorsAre (· ≠ .malformedOption f) (options seen ts) ↔ ∀ t ∈ ts, t.text = f → isWellFormedOption t = true := by
  induction ts generalizing seen with
  | nil => simp [options]
  | cons t ts ih =>
    simp only [options, inCommand, adviseCommand, errorsAre_append, errorsAre_guarded, errorsAre_error,
      errorsAre_warning, ih, List.forall_mem_cons, implies_true, and_true]
    refine and_congr_left fun _ => ?_
    simp only [Bool.not_eq_true', ne_eq, Issue.malformedOption.injEq]
    rw [← Bool.not_eq_true]
    exact Decidable.not_imp_not

theorem component_errorsAre_iff {f : String} {c : Component} (stand : c.OptionsStand) (index : Nat) :
    ErrorsAre (· ≠ .malformedOption f) (component index c) ↔
      ∀ t ∈ c.options, t.text = f → isWellFormedOption t = true := by
  unfold component
  split
  · rename_i empty
    have none : c.options = [] := List.eq_nil_iff_forall_not_mem.2 fun t member => by
      have inside := (stand t member).1
      rw [List.isEmpty_iff.1 empty] at inside
      exact absurd inside List.not_mem_nil
    simp [none]
  · simp [inCommand, adviseCommand, options_errorsAre_iff]

theorem components_errorsAre_iff {f : String} {cs : List Component} (stand : ∀ c ∈ cs, c.OptionsStand) (index : Nat) :
    ErrorsAre (· ≠ .malformedOption f) (components index cs) ↔
      ∀ t ∈ cs.flatMap (·.options), t.text = f → isWellFormedOption t = true := by
  induction cs generalizing index with
  | nil => simp [components]
  | cons c cs ih =>
    obtain ⟨first, later⟩ := List.forall_mem_cons.1 stand
    rw [components, errorsAre_append, component_errorsAre_iff first, ih later, List.flatMap_cons, List.forall_mem_append]

theorem structure_errorsAre_iff {f : String} (ts : List Token) (security precedence : Bool) :
    ErrorsAre (· ≠ .malformedOption f) ((Structure.ofTokens ts).check security precedence) ↔
      ∀ t ∈ (Structure.ofTokens ts).options, t.text = f → isWellFormedOption t = true := by
  have stand := Component.OptionsStand.gather (Element.ofTokens ts)
  have operators (previous? : Option Token) : ErrorsAre (· ≠ .malformedOption f) (operators previous? ts) :=
    operators_errorsAre (fun _ => Issue.noConfusion) (fun _ _ => Issue.noConfusion) previous? ts
  rw [structure_errorsAre]
  unfold Structure.check
  split
  · rename_i empty
    cases List.isEmpty_iff.1 empty
    simp [Structure.ofTokens, Structure.ofComponents, Element.ofTokens, Component.gather, Component.isEmpty, inCommand]
  · have found := components_errorsAre_iff (f := f) stand 0
    simp only [errorsAre_append, errorsAre_concat, List.forall_mem_map, errorsAre_guarded, Bool.false_eq_true,
      false_implies, and_true]
    change (_ ∧ ErrorsAre _ (components 0 (Component.gather {} (Element.ofTokens ts)))) ∧ _ ↔ _
    rw [found, and_iff_left fun t _ => by simp [token, adviseCommand]]
    exact and_iff_right (operators none)

theorem isFlag_of_flags {seen spellings : List String} (valid : (flags seen spellings).errors = []) :
    ∀ f ∈ spellings, Text.isFlag f.toList = true := by
  induction spellings generalizing seen with
  | nil => exact fun _ member => absurd member List.not_mem_nil
  | cons f spellings ih =>
    simp only [errors_eq_nil_iff, flags, errorsAre_append, errorsAre_guarded, errorsAre_error, imp_false,
      Bool.not_eq_true', Bool.not_eq_false] at valid
    exact List.forall_mem_cons.2 ⟨valid.1.1, ih (errors_eq_nil_iff.2 valid.2)⟩

theorem isFlag_of_optionList {d : Definition} {seen : List String} {os : List CommandOption}
    (valid : (optionList d seen os).errors = []) : ∀ o ∈ os, ∀ f ∈ o.spellings, Text.isFlag f.toList = true := by
  induction os generalizing seen with
  | nil => exact fun _ member => absurd member List.not_mem_nil
  | cons o os ih =>
    unfold optionList at valid
    split at valid
    · exact absurd valid (by simp [errors_append, error])
    · simp only [errors_append, List.append_eq_nil_iff] at valid
      refine List.forall_mem_cons.2 ⟨fun f member => ?_, ih valid.2⟩
      exact isFlag_of_flags valid.1.1 f (Text.mem_distinct_iff.2 member)

/-- The spellings of the options of an accepted definition are flags. -/
theorem isFlag_of_accepted {d : Definition} {context : CreationContext} (accepted : (d.check context).isValid = true)
    {f : String} (member : f ∈ d.spellings) : Text.isFlag f.toList = true := by
  obtain ⟨o, declared, spelled⟩ := List.mem_flatMap.1 member
  have options : (declaredOptions d).isValid = true := by
    simp only [Definition.check, isValid_append] at accepted
    exact accepted.1.1.2
  rw [isValid_iff, declaredOptions, errors_append, List.append_eq_nil_iff] at options
  exact isFlag_of_optionList options.2 o declared f spelled

/-- In the report on what is built, a flag is malformed where an option is written like it and it is hyphenated. -/
theorem errorsAre_malformedOption_iff {d : Definition} {s : Selection} {f : String} (flag : Text.isFlag f.toList = true)
    (built : String) :
    ErrorsAre (· ≠ .malformedOption f) (before d s ++
        (.concat ((unreported d s (before d s)).map fun run => inCommand (.unsubstitutedPlaceholder run)) ++
          (Structure.ofCommand built).check false true)) ↔
      (f ∈ (Structure.ofCommand built).options.map (·.text) → Text.isHyphenated f.toList = false) := by
  have selected : ErrorsAre (· ≠ .malformedOption f) (before d s) :=
    (before_concerns d s).imp fun issue concerns => by
      rintro rfl
      exact concerns
  have unfilled : ErrorsAre (· ≠ .malformedOption f)
      (.concat ((unreported d s (before d s)).map fun run => inCommand (.unsubstitutedPlaceholder run))) := by
    simp [inCommand]
  rw [errorsAre_append, errorsAre_append, and_iff_right selected, and_iff_right unfilled]
  refine (structure_errorsAre_iff (Token.scan built) false true).trans ?_
  have wellFormed : ∀ t ∈ (Structure.ofCommand built).options, t.text = f →
      isWellFormedOption t = !Text.isHyphenated f.toList := by
    rintro t member rfl
    obtain ⟨scanned, word⟩ := Structure.mem_scan_of_mem_options member
    exact isWellFormedOption_of_isFlag (Token.value_of_isFlag scanned word flag) flag
  constructor
  · intro formed member
    obtain ⟨t, option, text⟩ := List.mem_map.1 member
    rw [← Bool.not_eq_true', ← wellFormed t option text]
    exact formed t option text
  · intro plain t option text
    rw [wellFormed t option text, plain (List.mem_map.2 ⟨t, option, text⟩)]
    rfl

/-- A spelling of an accepted definition is never reported to be malformed, exactly as long as it is not both
hyphenated and an option in what is built: all that may be declared is well formed but for that. -/
theorem flags_agree_iff {d : Definition} {context : CreationContext} {s : Selection}
    (accepted : (d.check context).isValid = true) (executable : s.mode = .executable)
    (references : Build.checkReferences d s = .ok ()) :
    ∃ report built, d.checkBuild s = .ok report ∧ d.build s.relaxed = .ok (some built) ∧
      ∀ f ∈ d.spellings, isOptionFlag f.toList = !Text.isHyphenated f.toList ∧
        ((∀ diagnostic ∈ report.errors, diagnostic.issue ≠ .malformedOption f) ↔
          (f ∈ (Structure.ofCommand built).options.map (·.text) → Text.isHyphenated f.toList = false)) := by
  have alike : s.relaxed.mode = .executable := executable
  obtain ⟨ps, pieces⟩ := Build.exists_pieces_relaxed d s
  have made : Check.executable d s (before d s) = _ :=
    (executable_eq_ok_iff executable).2 ⟨references, ps, pieces, rfl⟩
  have built : d.build s.relaxed = _ := (Build.build_eq_ok_iff alike).2 ⟨references, ps, pieces, rfl⟩
  refine ⟨_, _, (checkBuild_eq_ok_iff executable).2 ⟨references, _, made, rfl⟩, built, fun f spelled => ?_⟩
  have flag := isFlag_of_accepted accepted spelled
  exact ⟨isOptionFlag_of_isFlag flag, errorsAre_malformedOption_iff flag _⟩

/-- A spelling without further hyphens is accepted, built, and not reported. -/
theorem flags_agree_of_color :
    let d : Definition :=
      { name := "list", description := "Lists files", command := "ls", category? := some "files"
        options := [{ flag? := some "--no-color" }, { flag? := some "-a1" }] }
    let s : Selection := { mode := .executable, options := SortedList.empty.insert "--no-color" |>.insert "-a1" }
    (d.check {}).isValid = true ∧ s.mode = .executable ∧ Build.checkReferences d s = .ok () ∧
      ∃ report, d.checkBuild s = .ok report ∧ ∀ f ∈ d.spellings, ∀ diagnostic ∈ report.errors,
        diagnostic.issue ≠ .malformedOption f := by
  intro d s
  have accepted : (d.check {}).isValid = true := by decide +kernel
  have references : Build.checkReferences d s = .ok () := Build.eq_ok_of_toOption (by decide +kernel)
  obtain ⟨report, built, checked, _, agrees⟩ := flags_agree_iff accepted (show s.mode = .executable from rfl) references
  have plain : ∀ f ∈ d.spellings, Text.isHyphenated f.toList = false := by decide +kernel
  exact ⟨accepted, rfl, references, report, checked, fun f spelled => (agrees f spelled).2.2 fun _ => plain f spelled⟩


/-- An option with one hyphen in front and one inside may be declared and is reported where it is built. -/
theorem flags_disagree_of_hyphenated :
    let d : Definition :=
      { name := "list", description := "Lists files", command := "ls", category? := some "files"
        options := [{ flag? := some "-no-color" }] }
    let s : Selection := { mode := .executable, options := SortedList.empty.insert "-no-color" }
    (d.check {}).isValid = true ∧ s.mode = .executable ∧ Build.checkReferences d s = .ok () ∧
      "-no-color" ∈ d.spellings ∧
      ∃ report, d.checkBuild s = .ok report ∧
        ∃ diagnostic ∈ report.errors, diagnostic.issue = .malformedOption "-no-color" := by
  intro d s
  have accepted : (d.check {}).isValid = true := by decide +kernel
  have references : Build.checkReferences d s = .ok () := Build.eq_ok_of_toOption (by decide +kernel)
  have reported : (d.checkBuild s).toOption.map (·.errors.map (·.issue)) = some [.malformedOption "-no-color"] := by
    decide +kernel
  obtain ⟨report, checked, issues⟩ := Option.map_eq_some_iff.1 reported
  have member : Issue.malformedOption "-no-color" ∈ report.errors.map (·.issue) := by simp [issues]
  obtain ⟨diagnostic, inside, issue⟩ := List.mem_map.1 member
  exact ⟨accepted, rfl, references, by decide +kernel, report, Build.eq_ok_of_toOption checked, diagnostic, inside,
    issue⟩

end Check

end ShellTemplate
