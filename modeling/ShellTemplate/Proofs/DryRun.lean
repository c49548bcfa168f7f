import ShellTemplate.Proofs.ValidSelections

namespace ShellTemplate

namespace Build

/-- The computation fails for lack of a value, with one of these names, or not at all. -/
def OnlyLacks (names : String → Prop) {α : Type} (x : Except BuildError α) : Prop :=
  ∀ e, x = .error e → ∃ name, names name ∧ e = .missingRequiredValue name

namespace OnlyLacks

variable {α β : Type} {names : String → Prop}

theorem ok (a : α) : OnlyLacks names (.ok a) := nofun

theorem missing {name : String} (lacking : names name) :
    @OnlyLacks names α (.error (.missingRequiredValue name)) := by
  rintro _ ⟨⟩
  exact ⟨name, lacking, rfl⟩

/-- What a value that is missing leads to. -/
theorem missing_if {enforced : Bool} {name : String} (lacking : enforced = true → names name) (a : α) :
    OnlyLacks names (if enforced then .error (.missingRequiredValue name) else .ok a) := by
  cases enforced with
  | true => exact missing (lacking rfl)
  | false => exact ok a

theorem imp {names' : String → Prop} {x : Except BuildError α} (only : OnlyLacks names x)
    (more : ∀ name, names name → names' name) : OnlyLacks names' x := fun e failed => by
  obtain ⟨name, lacking, same⟩ := only e failed
  exact ⟨name, more name lacking, same⟩

theorem bind {x : Except BuildError α} {f : α → Except BuildError β} (first : OnlyLacks names x)
    (next : ∀ a, OnlyLacks names (f a)) : OnlyLacks names (x >>= f) := by
  cases x with
  | error e =>
    obtain ⟨name, lacking, rfl⟩ := first e rfl
    exact missing lacking
  | ok a => exact next a

theorem map {x : Except BuildError α} (f : α → β) (only : OnlyLacks names x) : OnlyLacks names (x.map f) := by
  cases x with
  | error e =>
    obtain ⟨name, lacking, rfl⟩ := only e rfl
    exact missing lacking
  | ok a => exact ok (f a)

theorem mapM {f : α → Except BuildError β} {xs : List α} (each : ∀ x ∈ xs, OnlyLacks names (f x)) :
    OnlyLacks names (xs.mapM f) := by
  induction xs with
  | nil => exact ok []
  | cons x xs ih =>
    obtain ⟨head, tail⟩ := List.forall_mem_cons.1 each
    rw [List.mapM_cons]
    exact head.bind fun y => (ih tail).bind fun ys => ok (y :: ys)

end OnlyLacks

section

variable (d : Definition) (s : Selection)

/-- One of the placeholders has this name and no value, where values are enforced. -/
def LacksAmong (ps : List Placeholder) (name : String) : Prop :=
  s.validateRequired = true ∧ ∃ p ∈ ps, isUnfilled d s p = true ∧ p.name = name

/-- A placeholder in a token, an option or a parameter that the template never mentions asks for a value by this
name and has none, where values are enforced. -/
def Lacks (name : String) : Prop :=
  s.validateRequired = true ∧
    ((∃ t ∈ Token.scan d.command, ∃ p ∈ Placeholder.scan t.text, isUnfilled d s p = true ∧ p.name = name) ∨
      (∃ o ∈ d.options, isUnfilledOption d s ((Token.scan d.command).takeWhile fun t => !t.isControl) o = true ∧
        valueName o (d.optionParameter? o) = name) ∨
      ∃ p ∈ unmentioned d, isUnfilledParameter s p = true ∧ p.name = name)

theorem occurrenceText_onlyLacks (word : String) (p : Placeholder) :
    OnlyLacks (LacksAmong d s [p]) (occurrenceText d s word p) := by
  unfold occurrenceText
  dsimp only
  cases given : occurrenceValue? s p (d.findParameter? p.name) with
  | some value => exact .ok _
  | none =>
    cases needed : p.mustBeFilled (d.findParameter? p.name) with
    | false => exact .ok _
    | true =>
      have unfilled : isUnfilled d s p = true := by simp [isUnfilled, given, needed]
      exact .missing_if (fun enforced => ⟨enforced, p, List.mem_singleton_self p, unfilled, rfl⟩) _

theorem fillFrom_onlyLacks (word : String) (position : Nat) (cs : List Char) :
    OnlyLacks (LacksAmong d s (Placeholder.scanFrom position cs)) (fillFrom d s word position cs) := by
  fun_induction Placeholder.scanFrom position cs with
  | case1 position cs name kind after found stop ih =>
    rw [fillFrom_of_leading? found]
    refine ((occurrenceText_onlyLacks d s word _).imp ?_).bind fun _ => (ih.imp ?_).bind fun _ => .ok _
    · rintro _ ⟨enforced, p, member, lacking⟩
      exact ⟨enforced, p, List.mem_cons.2 (Or.inl (List.mem_singleton.1 member)), lacking⟩
    · rintro _ ⟨enforced, p, member, lacking⟩
      exact ⟨enforced, p, List.mem_cons_of_mem _ member, lacking⟩
  | case2 =>
    rw [fillFrom_nil]
    exact .ok _
  | case3 position c rest none ih =>
    rw [fillFrom_of_none none]
    exact ih.bind fun _ => .ok _

theorem tokenPiece_onlyLacks (t : Token) : OnlyLacks (LacksAmong d s (Placeholder.scan t.text)) (tokenPiece d s t) := by
  have text : OnlyLacks (LacksAmong d s (Placeholder.scan t.text)) (wordText d s t) := by
    unfold wordText
    split
    · exact .ok _
    · split
      · split <;> exact .ok _
      · exact fillFrom_onlyLacks d s t.text 0 t.text.toList
  unfold tokenPiece
  split
  · exact .ok _
  · exact text.map word

theorem optionPieces_onlyLacks (first : List Token) (o : CommandOption) :
    OnlyLacks (fun name => s.validateRequired = true ∧ isUnfilledOption d s first o = true ∧
      valueName o (d.optionParameter? o) = name) (optionPieces d s first o) := by
  unfold optionPieces isUnfilledOption optionText
  cases s.selectedSpelling? o with
  | none => exact .ok _
  | some spelling =>
    cases isSpelledIn first o with
    | true => exact .ok _
    | false =>
      cases o.hasValue with
      | false => exact .ok _
      | true =>
        refine OnlyLacks.bind ?_ fun _ => .ok _
        dsimp only
        split
        · exact .ok _
        · cases optionValue? s o (d.optionParameter? o) with
          | some value => exact .ok _
          | none => exact .missing_if (fun enforced => ⟨enforced, rfl, rfl⟩) _

theorem parameterText?_onlyLacks (p : Parameter) :
    OnlyLacks (fun name => s.validateRequired = true ∧ isUnfilledParameter s p = true ∧ p.name = name)
      (parameterText? s p) := by
  unfold parameterText? isUnfilledParameter
  split
  · exact .ok _
  · cases (s.value? p.name).or (fallback? s p) with
    | some value => exact .ok _
    | none =>
      cases p.isRequired with
      | false => exact .ok _
      | true => exact .missing_if (fun enforced => ⟨enforced, rfl, rfl⟩) _

theorem pieces_onlyLacks : OnlyLacks (Lacks d s) (pieces d s) := by
  have tokens {ts : List Token} (inside : ts ⊆ Token.scan d.command) : OnlyLacks (Lacks d s) (ts.mapM (tokenPiece d s)) :=
    .mapM fun t member => (tokenPiece_onlyLacks d s t).imp fun _ ⟨enforced, lacking⟩ =>
      ⟨enforced, Or.inl ⟨t, inside member, lacking⟩⟩
  have options (o : CommandOption) (member : o ∈ d.options) :=
    (optionPieces_onlyLacks d s ((Token.scan d.command).takeWhile fun t => !t.isControl) o).imp
      fun name ⟨enforced, lacking⟩ => (⟨enforced, Or.inr (Or.inl ⟨o, member, lacking⟩)⟩ : Lacks d s name)
  have parameters (p : Parameter) (member : p ∈ unmentioned d) := (parameterText?_onlyLacks s p).imp
    fun name ⟨enforced, lacking⟩ => (⟨enforced, Or.inr (Or.inr ⟨p, member, lacking⟩)⟩ : Lacks d s name)
  have first := (List.takeWhile_prefix (fun t : Token => !t.isControl) (l := Token.scan d.command)).subset
  have others := (List.dropWhile_suffix (fun t : Token => !t.isControl) (l := Token.scan d.command)).subset
  unfold pieces
  dsimp only
  refine .bind (.mapM options) fun _ => ?_
  refine .bind (tokens fun _ member => first ((List.dropWhile_suffix _).subset member)) fun _ => ?_
  refine .bind (.mapM parameters) fun _ => ?_
  exact .bind (tokens others) fun _ => .ok _

/-- Where missing values are let through, every selection has its pieces. -/
theorem exists_pieces_relaxed : ∃ ps, pieces d s.relaxed = .ok ps := by
  cases made : pieces d s.relaxed with
  | ok ps => exact ⟨ps, rfl⟩
  | error e =>
    obtain ⟨_, ⟨enforced, _⟩, _⟩ := pieces_onlyLacks d s.relaxed e made
    exact absurd enforced Bool.false_ne_true

end

/-- A selection that names only what is declared is built, unless a token of the template, an option or a
parameter lacks its value. -/
theorem build_lacks_no_value_iff {d : Definition} {s : Selection} (executable : s.mode = .executable)
    (enforced : s.validateRequired = true) (references : checkReferences d s = .ok ()) :
    (∀ name, d.build s ≠ .error (.missingRequiredValue name)) ↔
      (∀ t ∈ Token.scan d.command, ∀ p ∈ Placeholder.scan t.text, isUnfilled d s p = false) ∧
      (∀ o ∈ d.options, isUnfilledOption d s ((Token.scan d.command).takeWhile fun t => !t.isControl) o = false) ∧
      ∀ p ∈ unmentioned d, isUnfilledParameter s p = false := by
  have made : d.build s = (pieces d s).map fun ps => some (Piece.join ps) := by
    unfold Definition.build
    rw [references, executable]
    cases pieces d s <;> rfl
  rw [← (pieces_agrees_of_filled executable enforced).succeeds_iff, made]
  cases built : pieces d s with
  | ok ps => exact ⟨fun _ => ⟨ps, rfl⟩, fun _ _ => nofun⟩
  | error e =>
    obtain ⟨name, _, rfl⟩ := pieces_onlyLacks d s e built
    exact ⟨fun lacks => absurd rfl (lacks name), nofun⟩

end Build

namespace Check

variable {d : Definition} {s : Selection}

/-- A place that no value fills although the check of the selection finds none missing: the placeholder shows
only in a token by itself, its parameter is an option's value, or another placeholder of the same name has a
default. -/
def isOverlooked (d : Definition) (s : Selection) (p : Placeholder) : Bool :=
  Build.isUnfilled d s p &&
    (!((Placeholder.scan d.command).map Placeholder.label).contains p.label ||
      (d.findParameter? p.name).any (·.parentOption?.isSome) ||
      s.useDefaults && (Placeholder.scan d.command).any fun q =>
        q.name == p.name && q.inlineDefault?.any fun value => !value.isEmpty)

/-- The check finds a value to be missing where its parameter is no option's value and no placeholder of its
name has a default. -/
theorem IsPassed.isFilled (passed : IsPassed d s) (enforced : enforcesValues s = true) {p : Placeholder}
    (found : p ∈ Placeholder.scan d.command)
    (free : (d.findParameter? p.name).any (·.parentOption?.isSome) = false)
    (undefaulted : s.useDefaults = true →
      ∀ q ∈ Placeholder.scan d.command, q.name = p.name → q.inlineDefault?.all String.isEmpty = true) :
    Build.isUnfilled d s p = false := by
  obtain ⟨parameter, declared⟩ := passed.declared p.name (Placeholder.mem_names_iff.2 ⟨p, found, rfl⟩)
  obtain ⟨member, name⟩ := Definition.findParameter?_eq_some declared
  rw [declared, Option.any_some, Option.isSome_eq_false_iff, Option.isNone_iff_eq_none] at free
  refine Bool.eq_false_iff.2 fun unfilled => ?_
  simp only [Build.isUnfilled, declared, Bool.and_eq_true, Option.isNone_iff_eq_none, Build.occurrenceValue?,
    Option.or_eq_none_iff, Option.bind_some] at unfilled
  obtain ⟨⟨ungiven, ownDefault⟩, mustBeFilled⟩ := unfilled
  have unresolved : resolvedValue? d s parameter = none := by
    refine resolvedValue?_eq_none_iff.2 ⟨by rwa [name], fun defaults => ⟨?_, ?_⟩⟩
    · rw [name]
      exact undefaulted defaults
    · rw [defaults, if_pos rfl, Option.or_eq_none_iff] at ownDefault
      exact ownDefault.2
  have unneeded := passed.unneeded enforced parameter member free unresolved
  have inside : p ∈ (Placeholder.scan d.command).filter (·.name == parameter.name) :=
    List.mem_filter.2 ⟨found, beq_iff_eq.2 name.symm⟩
  have needed : d.needsValue parameter = true := by
    rw [Definition.needsValue, free, Option.isNone_none, Bool.true_and,
      if_neg (by simpa using List.ne_nil_of_mem inside)]
    exact List.any_eq_true.2 ⟨p, inside, mustBeFilled⟩
  exact absurd needed (Bool.eq_false_iff.1 unneeded)

theorem IsPassed.isOverlooked_eq (passed : IsPassed d s) (enforced : enforcesValues s = true) (p : Placeholder) :
    isOverlooked d s p = Build.isUnfilled d s p := by
  unfold isOverlooked
  cases unfilled : Build.isUnfilled d s p with
  | false => rfl
  | true =>
    rw [Bool.true_and]
    refine Decidable.byContradiction fun seen => ?_
    simp only [Bool.not_eq_true, Bool.or_eq_false_iff, Bool.not_eq_false', List.contains_iff_mem, List.mem_map] at seen
    obtain ⟨⟨⟨q, found, same⟩, free⟩, undefaulted⟩ := seen
    have sameName : q.name = p.name := congrArg Prod.fst same
    rw [← Build.isUnfilled_of_label same] at unfilled
    rw [← sameName] at free undefaulted
    rw [passed.isFilled enforced found free fun defaults other inside named => ?_] at unfilled
    · cases unfilled
    · simp only [defaults, Bool.true_and, List.any_eq_false] at undefaulted
      have blank := undefaulted other inside
      cases default : other.inlineDefault? with
      | none => rfl
      | some value => simpa [named, default] using blank

/-- A dry run, that is a check of the selection in validation mode, that finds nothing wrong promises a build to
which no value is missing, exactly as long as it overlooks no place that must be filled. -/
theorem dry_run_sound_iff {r : Report} (enforced : s.validateRequired = true)
    (checked : d.checkBuild { s with mode := .validation } = .ok r) (valid : r.isValid = true) :
    (∀ name, d.build { s with mode := .executable } ≠ .error (.missingRequiredValue name)) ↔
      ∀ p ∈ d.occurrences, isOverlooked d s p = false := by
  have passed := isPassed_of_valid checked valid
  have enforces : enforcesValues { s with mode := .validation } = true := by
    rw [enforcesValues, enforced]
    rfl
  have places : (∀ p ∈ d.occurrences, isOverlooked d s p = false) ↔
      ∀ t ∈ Token.scan d.command, ∀ p ∈ Placeholder.scan t.text, Build.isUnfilled d s p = false := by
    have same (p : Placeholder) : isOverlooked d s p = Build.isUnfilled d s p := passed.isOverlooked_eq enforces p
    simp only [Definition.occurrences, List.forall_mem_flatMap, same]
  have executable : { s with mode := .executable }.mode = .executable := rfl
  refine (Build.build_lacks_no_value_iff executable enforced passed.references).trans ?_
  rw [places]
  exact ⟨And.left, fun filled => ⟨filled, fun o => passed.isUnfilledOption enforces _,
    fun p => passed.isUnfilledParameter enforces⟩⟩

/-- A value for one place and a default for the other: the dry run finds nothing wrong, and the build lacks
nothing. -/
theorem dry_run_sound_of_default :
    let d : Definition :=
      { name := "copy", command := "cp \x7b\x7bsource\x7d\x7d \x7b\x7btarget:backup\x7d\x7d"
        parameters := [{ name := "source" }, { name := "target" }] }
    let s : Selection := { parameterValues := SortedList.empty.insert ("source", "notes") }
    s.validateRequired = true ∧
      (∃ r, d.checkBuild { s with mode := .validation } = .ok r ∧ r.isValid = true) ∧
      ∀ name, d.build { s with mode := .executable } ≠ .error (.missingRequiredValue name) := by
  intro d s
  have valid : (d.checkBuild { s with mode := .validation }).toOption.map Report.isValid = some true := by
    decide +kernel
  obtain ⟨r, checked, isValid⟩ := Option.map_eq_some_iff.1 valid
  have made := Build.eq_ok_of_toOption checked
  have seen : ∀ p ∈ d.occurrences, isOverlooked d s p = false := by decide +kernel
  exact ⟨rfl, ⟨r, made, isValid⟩, (dry_run_sound_iff rfl made isValid).2 seen⟩

/-- The default of one placeholder hides from the dry run that another one of the same name has no value. -/
theorem dry_run_overlooks_repeated_placeholder :
    let d : Definition :=
      { name := "print", command := "echo \x7b\x7bx:a\x7d\x7d \x7b\x7bx\x7d\x7d", parameters := [{ name := "x" }] }
    let s : Selection := {}
    s.validateRequired = true ∧
      (∃ r, d.checkBuild { s with mode := .validation } = .ok r ∧ r.isValid = true) ∧
      d.build { s with mode := .executable } = .error (.missingRequiredValue "x") := by
  intro d s
  have valid : (d.checkBuild { s with mode := .validation }).toOption.map Report.isValid = some true := by
    decide +kernel
  obtain ⟨r, checked, isValid⟩ := Option.map_eq_some_iff.1 valid
  have lacking : (match d.build { s with mode := .executable } with
      | .error e => e == .missingRequiredValue "x"
      | .ok _ => false) = true := by
    decide +kernel
  refine ⟨rfl, ⟨r, Build.eq_ok_of_toOption checked, isValid⟩, ?_⟩
  split at lacking
  · rename_i e failed
    rw [failed, beq_iff_eq.1 lacking]
  · cases lacking

end Check

end ShellTemplate
