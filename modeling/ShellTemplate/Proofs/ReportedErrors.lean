import ShellTemplate.Check.Build

namespace ShellTemplate

namespace Report

/-- Every error of the report has the property. -/
def ErrorsAre (p : Issue → Prop) (r : Report) : Prop :=
  ∀ diagnostic ∈ r.errors, p diagnostic.issue

variable {p : Issue → Prop}

@[simp] theorem errorsAre_empty : ErrorsAre p {} := by
  simp [ErrorsAre]

@[simp] theorem errorsAre_append {a b : Report} : ErrorsAre p (a ++ b) ↔ ErrorsAre p a ∧ ErrorsAre p b := by
  simp only [ErrorsAre, errors_append, List.mem_append, or_imp, forall_and]

@[simp] theorem errorsAre_concat {reports : List Report} :
    ErrorsAre p (concat reports) ↔ ∀ r ∈ reports, ErrorsAre p r := by
  induction reports with
  | nil => simp [concat]
  | cons r reports ih =>
    change ErrorsAre p (r ++ concat reports) ↔ _
    rw [errorsAre_append, ih, List.forall_mem_cons]

@[simp] theorem errorsAre_guarded {condition : Bool} {r : Report} :
    ErrorsAre p (guarded condition r) ↔ (condition = true → ErrorsAre p r) := by
  cases condition <;> simp [guarded]

@[simp] theorem errorsAre_error {issue : Issue} {field? : Option String} :
    ErrorsAre p (error issue field?) ↔ p issue := by
  simp [ErrorsAre, error, Diagnostic.ofIssue]

@[simp] theorem errorsAre_warning {issue : Issue} {field? : Option String} :
    ErrorsAre p (warning issue field?) := by
  simp [ErrorsAre, warning]

@[simp] theorem errorsAre_suggestion {issue : Issue} {field? : Option String} :
    ErrorsAre p (suggestion issue field?) := by
  simp [ErrorsAre, suggestion]

theorem ErrorsAre.imp {q : Issue → Prop} {r : Report} (holds : ErrorsAre p r) (imp : ∀ issue, p issue → q issue) :
    ErrorsAre q r :=
  fun diagnostic member => imp _ (holds diagnostic member)

theorem mem_errors_concat_map {α : Type} {diagnostic : Diagnostic} {f : α → Report} {xs : List α} :
    diagnostic ∈ (concat (xs.map f)).errors ↔ ∃ x ∈ xs, diagnostic ∈ (f x).errors := by
  induction xs with
  | nil => simp [concat]
  | cons x xs ih =>
    change diagnostic ∈ (f x ++ concat (xs.map f)).errors ↔ _
    simp [ih]

theorem mem_errors_guarded {diagnostic : Diagnostic} {condition : Bool} {r : Report} :
    diagnostic ∈ (guarded condition r).errors ↔ condition = true ∧ diagnostic ∈ r.errors := by
  cases condition <;> simp [guarded]

theorem append_empty (r : Report) : r ++ ({} : Report) = r := by
  cases r
  change append _ _ = _
  rw [append, List.append_nil, List.append_nil, List.append_nil]

theorem isValid_iff {r : Report} : r.isValid = true ↔ r.errors = [] := List.isEmpty_iff

theorem errors_eq_nil_iff {r : Report} : r.errors = [] ↔ ErrorsAre (fun _ => False) r := by
  simp [ErrorsAre, List.eq_nil_iff_forall_not_mem]

end Report

/-- The issue is no placeholder that a build leaves as it is. -/
def Issue.IsOther (issue : Issue) : Prop :=
  ∀ run, issue ≠ .unsubstitutedPlaceholder run

/-- The issue is about what is selected, and not about what is built from it. -/
def Issue.ConcernsSelection : Issue → Prop
  | .undefinedPlaceholder _ | .missingRequiredValue _ | .invalidValue .. | .notInEnum ..
  | .requiredOptionNotSelected _ | .missingOptionValue _ | .optionConflict .. | .missingDependency .. => True
  | _ => False

/-- The issue is about the value of a parameter or an option. -/
def Issue.ConcernsValue : Issue → Prop
  | .missingRequiredValue _ | .missingOptionValue _ | .invalidValue .. | .notInEnum .. => True
  | _ => False

/-- The issue is about the form of a command line. -/
def Issue.ConcernsCommand : Issue → Prop
  | .emptyCommand | .missingBaseCommand _ | .malformedOption _ | .leadingSeparator _ | .consecutiveSeparators ..
  | .missingRedirectTarget _ | .backgroundNotTerminal => True
  | _ => False

theorem Issue.ConcernsValue.concernsSelection {issue : Issue} (concerns : issue.ConcernsValue) :
    issue.ConcernsSelection := by
  cases issue <;> trivial

theorem Issue.ConcernsCommand.isOther {issue : Issue} (concerns : issue.ConcernsCommand) : issue.IsOther := by
  rintro run rfl
  exact concerns

theorem Issue.ConcernsSelection.isOther {issue : Issue} (concerns : issue.ConcernsSelection) : issue.IsOther := by
  rintro run rfl
  exact concerns

namespace Check

open Report

theorem value_concerns (name : String) (valueType : ValueType) (choices : List String) (given : String) :
    ErrorsAre Issue.ConcernsValue (Check.value name valueType choices given) := by
  unfold Check.value
  cases valueType <;> dsimp only <;> try split
  all_goals simp [Issue.ConcernsValue]

theorem checkValue_concerns (p : Parameter) (value? : Option String) (context : ClassificationContext)
    (active : Bool) (c : Classifier) :
    ErrorsAre Issue.ConcernsValue ((Classifier.checkValue p value? context active).run c).1 := by
  unfold Classifier.checkValue
  simp only [StateT.run_bind]
  split
  · exact value_concerns _ _ _ _
  · exact errorsAre_guarded.2 fun _ => errorsAre_error.2 (by simp [Issue.ConcernsValue])

theorem selectedParameter_concerns (d : Definition) (s : Selection) (p : Parameter) (c : Classifier) :
    ErrorsAre Issue.ConcernsValue ((selectedParameter d s p).run c).1 := by
  unfold selectedParameter
  dsimp only
  split
  · split
    · exact checkValue_concerns _ _ _ _ c
    · exact errorsAre_empty
  · simp only [StateT.run_bind]
    split
    · exact checkValue_concerns _ _ _ _ _
    · exact errorsAre_guarded.2 fun _ => errorsAre_error.2 (by simp [Issue.ConcernsValue])

theorem selectedParameters_concerns (d : Definition) (s : Selection) (ps : List Parameter) (c : Classifier) :
    ErrorsAre Issue.ConcernsValue ((selectedParameters d s ps).run c).1 := by
  induction ps generalizing c with
  | nil => exact errorsAre_empty
  | cons p ps ih =>
    unfold selectedParameters
    simp only [StateT.run_bind]
    exact errorsAre_append.2 ⟨selectedParameter_concerns d s p c, ih _⟩

theorem selectedValue_concerns (d : Definition) (s : Selection) (o : CommandOption) (spelling : String) :
    ErrorsAre Issue.ConcernsValue (selectedValue d s o spelling) := by
  unfold selectedValue
  dsimp only
  split
  · split
    · exact value_concerns _ _ _ _
    · exact errorsAre_empty
  · simp [inOptions, Issue.ConcernsValue]

theorem selectedOption_concerns (d : Definition) (s : Selection) (o : CommandOption) :
    ErrorsAre Issue.ConcernsSelection (selectedOption d s o) := by
  have given (spelling : String) : ErrorsAre Issue.ConcernsSelection (selectedValue d s o spelling) :=
    (selectedValue_concerns d s o spelling).imp fun _ => Issue.ConcernsValue.concernsSelection
  unfold selectedOption
  split
  · simp [inOptions, Issue.ConcernsSelection]
  · simp [inOptions, Issue.ConcernsSelection, given]

/-- What is found about a selection before anything is built, given the findings about the parameters. -/
def findings (d : Definition) (s : Selection) (parameters : Report) : Report :=
  .concat ((Placeholder.names d.command).map fun name =>
      .guarded (d.findParameter? name).isNone (inCommand (.undefinedPlaceholder name))) ++
    parameters ++ .concat (d.options.map (selectedOption d s))

theorem findings_concern (d : Definition) (s : Selection) (c : Classifier) :
    ErrorsAre Issue.ConcernsSelection (findings d s ((selectedParameters d s d.parameters).run c).1) := by
  refine errorsAre_append.2 ⟨errorsAre_append.2 ⟨?_, ?_⟩, ?_⟩
  · exact errorsAre_concat.2 (List.forall_mem_map.2 fun name _ => errorsAre_guarded.2 fun _ => errorsAre_error.2 trivial)
  · exact (selectedParameters_concerns d s _ c).imp fun _ => Issue.ConcernsValue.concernsSelection
  · exact errorsAre_concat.2 (List.forall_mem_map.2 fun o _ => selectedOption_concerns d s o)

/-- An operator leads or follows another one where it must not. -/
theorem operators_errorsAre {p : Issue → Prop} (leading : ∀ symbol, p (.leadingSeparator symbol))
    (consecutive : ∀ first second, p (.consecutiveSeparators first second)) (previous? : Option Token) (ts : List Token) :
    ErrorsAre p (operators previous? ts) := by
  induction ts generalizing previous? with
  | nil => exact errorsAre_empty
  | cons t ts ih =>
    have one : ErrorsAre p (operator previous? t ts.isEmpty) := by
      unfold operator
      split
      · exact errorsAre_empty
      · cases previous? <;> simp [inCommand, adviseCommand, leading, consecutive]
    exact errorsAre_append.2 ⟨errorsAre_guarded.2 fun _ => one, ih _⟩

theorem options_concern (seen : List String) (ts : List Token) : ErrorsAre Issue.ConcernsCommand (options seen ts) := by
  induction ts generalizing seen with
  | nil => exact errorsAre_empty
  | cons t ts ih => simp [options, inCommand, adviseCommand, Issue.ConcernsCommand, ih]

theorem components_concern (index : Nat) (cs : List Component) :
    ErrorsAre Issue.ConcernsCommand (components index cs) := by
  induction cs generalizing index with
  | nil => exact errorsAre_empty
  | cons c cs ih =>
    have one : ErrorsAre Issue.ConcernsCommand (component index c) := by
      unfold component
      split
      · exact errorsAre_empty
      · simp [inCommand, adviseCommand, Issue.ConcernsCommand, options_concern]
    exact errorsAre_append.2 ⟨one, ih _⟩

/-- The security and the precedence checks report no errors. -/
theorem structure_errorsAre (p : Issue → Prop) (s : Structure) (security precedence : Bool) :
    ErrorsAre p (s.check security precedence) ↔ ErrorsAre p (s.check false false) := by
  have secure : ErrorsAre p (Security.scan s.render s) := by
    have destroys (command : String) : ErrorsAre p (Security.destructive command) := by
      simp [Security.destructive]
    have one (c : Component) : ErrorsAre p (Security.component c) := by
      unfold Security.component
      split
      · exact errorsAre_empty
      · split
        · refine errorsAre_append.2 ⟨errorsAre_warning, ?_⟩
          split
          · exact errorsAre_empty
          · exact destroys _
        · exact destroys _
    simp only [Security.scan, errorsAre_append, errorsAre_concat, List.mem_map]
    refine ⟨?_, ?_⟩
    · rintro _ ⟨pattern, _, rfl⟩
      exact errorsAre_guarded.2 fun _ => errorsAre_warning
    · rintro _ ⟨c, _, rfl⟩
      exact one c
  unfold Structure.check
  split
  · rfl
  · simp [secure, Check.precedence]

theorem structure_concerns (s : Structure) (security precedence : Bool) :
    ErrorsAre Issue.ConcernsCommand (s.check security precedence) := by
  rw [structure_errorsAre]
  have placed : ErrorsAre Issue.ConcernsCommand (operators none s.tokens) :=
    operators_errorsAre (fun _ => trivial) (fun _ _ => trivial) none s.tokens
  unfold Structure.check
  split
  · simp [inCommand, Issue.ConcernsCommand]
  · simp [placed, components_concern, Check.token, adviseCommand]

end Check

end ShellTemplate
