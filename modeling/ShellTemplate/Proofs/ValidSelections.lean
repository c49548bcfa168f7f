import ShellTemplate.Proofs.BuildAgreement

namespace ShellTemplate

theorem Placeholder.mem_names_iff {command name : String} :
    name ∈ names command ↔ ∃ p ∈ scan command, p.name = name := by
  rw [names, Text.mem_distinct_iff, List.mem_map]

/-- The places where a build of the template puts values: the placeholders of its tokens. -/
def Definition.occurrences (d : Definition) : List Placeholder :=
  (Token.scan d.command).flatMap fun t => Placeholder.scan t.text

theorem Definition.findParameter?_eq_some {d : Definition} {name : String} {p : Parameter}
    (found : d.findParameter? name = some p) : p ∈ d.parameters ∧ p.name = name :=
  ⟨List.mem_of_find?_eq_some found, by simpa using List.find?_some found⟩

namespace Check

open Report

variable {d : Definition} {s : Selection}

/-- The value passes the check of its parameter's type. -/
def passes (p : Parameter) (value : String) : Bool :=
  (Check.value p.name p.valueType p.choices value).isValid

/-- What a check without errors says of a selection: what it and the template name is declared, a parameter
without a value needs none, every value that the check takes a parameter to have passes, and no option had an
error. A parameter that is an option's value counts while the option is selected. -/
structure IsPassed (d : Definition) (s : Selection) : Prop where
  references : Build.checkReferences d s = .ok ()
  declared : ∀ name ∈ Placeholder.names d.command, ∃ p, d.findParameter? name = some p
  unneeded : enforcesValues s = true → ∀ p ∈ d.parameters, p.parentOption? = none → resolvedValue? d s p = none →
    d.needsValue p = false
  passes : ∀ p ∈ d.parameters, p.parentOption?.all (s.hasOption d) = true →
    ∀ value, resolvedValue? d s p = some value → Text.isBlankText value = false → passes p value = true
  option : ∀ o ∈ d.options, ErrorsAre (fun _ => False) (selectedOption d s o)

/-- What is built is looked at in executable mode alone, and what is then reported is about its form. -/
theorem eq_append_of_checked {r : Report} (checked : d.checkBuild s = .ok r) :
    Build.checkReferences d s = .ok () ∧ ∃ made, r = before d s ++ made ∧
      ErrorsAre (fun issue => issue.ConcernsCommand ∨ ∃ run, issue = .unsubstitutedPlaceholder run) made := by
  by_cases executable : s.mode = .executable
  · obtain ⟨references, made, done, rfl⟩ := (checkBuild_eq_ok_iff executable).1 checked
    obtain ⟨_, ps, _, rfl⟩ := (executable_eq_ok_iff executable).1 done
    refine ⟨references, _, rfl, errorsAre_append.2 ⟨errorsAre_concat.2 ?_, ?_⟩⟩
    · exact List.forall_mem_map.2 fun run _ => errorsAre_error.2 (Or.inr ⟨run, rfl⟩)
    · exact (structure_concerns _ _ _).imp fun _ => Or.inl
  · unfold Definition.checkBuild Definition.checkBuildWith at checked
    rw [beq_false_of_ne executable] at checked
    cases references : Build.checkReferences d s with
    | error e =>
      rw [references] at checked
      cases checked
    | ok _ =>
      rw [references] at checked
      refine ⟨rfl, {}, ?_, errorsAre_empty⟩
      rw [← Except.ok.inj checked]
      exact (append_empty _).symm

/-- In every mode a check begins with the same report. -/
theorem errors_of_checked {r : Report} (checked : d.checkBuild s = .ok r) :
    Build.checkReferences d s = .ok () ∧ ∃ more, r.errors = (before d s).errors ++ more := by
  obtain ⟨references, made, rfl, _⟩ := eq_append_of_checked checked
  exact ⟨references, made.errors, errors_append _ _⟩

/-- What is found about one parameter is found in the check of them all. -/
theorem exists_selectedParameter {p : Parameter} {ps : List Parameter} (member : p ∈ ps) (c : Classifier) :
    ∃ c', ((selectedParameter d s p).run c').1.errors ⊆ ((selectedParameters d s ps).run c).1.errors := by
  induction ps generalizing c with
  | nil => exact absurd member List.not_mem_nil
  | cons q ps ih =>
    unfold selectedParameters
    simp only [StateT.run_bind]
    rcases List.mem_cons.1 member with rfl | later
    · exact ⟨c, List.subset_append_left _ _⟩
    · obtain ⟨c', inside⟩ := ih later ((selectedParameter d s q).run c).2
      exact ⟨c', List.subset_append_of_subset_right _ inside⟩

theorem passes_of_checkValue {p : Parameter} {value : String} (filled : Text.isBlankText value = false)
    {active : Bool} {c : Classifier}
    (valid : ErrorsAre (fun _ => False) ((Classifier.checkValue p (some value) {} active).run c).1) :
    passes p value = true := by
  unfold Classifier.checkValue at valid
  simp only [StateT.run_bind, Option.filter_some, filled, Bool.not_false, if_true] at valid
  exact isValid_iff.2 (errors_eq_nil_iff.2 valid)

theorem passes_of_valid {p : Parameter} {c : Classifier}
    (valid : ErrorsAre (fun _ => False) ((selectedParameter d s p).run c).1)
    (selected : p.parentOption?.all (s.hasOption d) = true) {value : String}
    (resolved : resolvedValue? d s p = some value) (filled : Text.isBlankText value = false) :
    passes p value = true := by
  unfold selectedParameter at valid
  cases bound : p.parentOption? with
  | some parent =>
    rw [bound, Option.all_some] at selected
    simp only [bound, resolved, selected, Option.isSome_some, Bool.and_true, if_true] at valid
    exact passes_of_checkValue filled valid
  | none =>
    simp only [bound, StateT.run_bind, resolved] at valid
    exact passes_of_checkValue filled valid

theorem unneeded_of_valid {p : Parameter} {c : Classifier}
    (valid : ErrorsAre (fun _ => False) ((selectedParameter d s p).run c).1) (enforced : enforcesValues s = true)
    (unbound : p.parentOption? = none) (unresolved : resolvedValue? d s p = none) : d.needsValue p = false := by
  unfold selectedParameter at valid
  simp only [unbound, StateT.run_bind, unresolved] at valid
  have missing := errorsAre_guarded.1 valid
  simp only [enforced, Bool.and_true, errorsAre_error, imp_false, Bool.not_eq_true, Bool.or_eq_false_iff] at missing
  exact missing.1

theorem isPassed_of_valid {r : Report} (checked : d.checkBuild s = .ok r) (valid : r.isValid = true) :
    IsPassed d s := by
  obtain ⟨references, more, errors⟩ := errors_of_checked checked
  rw [isValid_iff, errors, List.append_eq_nil_iff] at valid
  have clean := errors_eq_nil_iff.1 valid.1
  simp only [before, errorsAre_append, errorsAre_concat, List.forall_mem_map, errorsAre_guarded] at clean
  obtain ⟨⟨declared, parameters⟩, options⟩ := clean
  have each (p : Parameter) (member : p ∈ d.parameters) :
      ∃ c, ErrorsAre (fun _ => False) ((selectedParameter d s p).run c).1 := by
    obtain ⟨c, inside⟩ := exists_selectedParameter member .standard
    exact ⟨c, fun diagnostic found => parameters diagnostic (inside found)⟩
  refine ⟨references, fun name member => ?_, fun enforced p member => ?_, fun p member => ?_, options⟩
  · have found : ¬(d.findParameter? name).isNone = true :=
      fun none => errorsAre_error.1 (declared name member none)
    exact Option.ne_none_iff_exists'.1 (by simpa using found)
  · obtain ⟨_, clean⟩ := each p member
    exact unneeded_of_valid clean enforced
  · obtain ⟨_, clean⟩ := each p member
    exact fun selected _ => passes_of_valid clean selected

/-- A parameter has no value if none is given and neither its placeholders nor its declaration have a default. -/
theorem resolvedValue?_eq_none_iff {p : Parameter} : resolvedValue? d s p = none ↔
    s.value? p.name = none ∧ (s.useDefaults = true →
      (∀ q ∈ Placeholder.scan d.command, q.name = p.name → q.inlineDefault?.all String.isEmpty = true) ∧
        p.fallback? = none) := by
  have blank (inline? : Option String) :
      inline?.filter (fun value => !value.isEmpty) = none ↔ inline?.all String.isEmpty = true := by
    cases inline? <;> simp [Option.filter_some]
  unfold resolvedValue?
  cases s.useDefaults with
  | false => simp
  | true => simp only [if_true, Option.or_eq_none_iff, List.findSome?_eq_none_iff, List.mem_filter, beq_iff_eq,
      blank, and_imp, forall_const]

/-- An option that lacks its value is reported under the spelling by which it is selected. -/
theorem missingOptionValue_mem_errors (enforced : enforcesValues s = true) {first : List Token} {o : CommandOption}
    (unfilled : Build.isUnfilledOption d s first o = true) :
    ∃ spelling, o.isSpelled spelling = true ∧
      Diagnostic.ofIssue .error (.missingOptionValue spelling) (some "options") ∈ (selectedOption d s o).errors := by
  simp only [Build.isUnfilledOption, Bool.and_eq_true, Option.isSome_iff_exists, Option.isNone_iff_eq_none] at unfilled
  obtain ⟨⟨⟨takesValue, spelling, selected⟩, _⟩, ungiven⟩ := unfilled
  refine ⟨spelling, List.contains_iff_mem.2 (List.mem_of_find?_eq_some selected), ?_⟩
  unfold selectedOption selectedValue
  simp [selected, takesValue, ungiven, enforced, guarded, inOptions, error]

theorem IsPassed.isUnfilledOption (passed : IsPassed d s) (enforced : enforcesValues s = true) (first : List Token)
    {o : CommandOption} (member : o ∈ d.options) : Build.isUnfilledOption d s first o = false := by
  refine Bool.eq_false_iff.2 fun unfilled => ?_
  obtain ⟨_, _, reported⟩ := missingOptionValue_mem_errors enforced unfilled
  exact passed.option o member _ reported

/-- A parameter that the template never mentions and that lacks its value needs one. -/
theorem needsValue_of_isUnfilledParameter {p : Parameter} (member : p ∈ Build.unmentioned d)
    (unfilled : Build.isUnfilledParameter s p = true) :
    p ∈ d.parameters ∧ p.parentOption? = none ∧ resolvedValue? d s p = none ∧ d.needsValue p = true := by
  simp only [Build.unmentioned, List.mem_filter, Bool.and_eq_true, Option.isNone_iff_eq_none, Bool.not_eq_true',
    ← Bool.not_eq_true, List.contains_iff_mem, Placeholder.mem_names_iff, not_exists, not_and] at member
  simp only [Build.isUnfilledParameter, Bool.and_eq_true, Option.isNone_iff_eq_none, Option.or_eq_none_iff] at unfilled
  obtain ⟨declared, unbound, unmentioned⟩ := member
  obtain ⟨required, ungiven, undeclared⟩ := unfilled
  have none : (Placeholder.scan d.command).filter (·.name == p.name) = [] :=
    List.filter_eq_nil_iff.2 fun q found same => unmentioned q found (beq_iff_eq.1 same)
  refine ⟨declared, unbound, resolvedValue?_eq_none_iff.2 ⟨ungiven, fun defaults => ?_⟩, ?_⟩
  · refine ⟨fun q found same => absurd same (unmentioned q found), ?_⟩
    simpa [Build.fallback?, defaults] using undeclared
  · simp [Definition.needsValue, none, unbound, required]

theorem IsPassed.isUnfilledParameter (passed : IsPassed d s) (enforced : enforcesValues s = true) {p : Parameter}
    (member : p ∈ Build.unmentioned d) : Build.isUnfilledParameter s p = false := by
  refine Bool.eq_false_iff.2 fun unfilled => ?_
  obtain ⟨declared, unbound, unresolved, needed⟩ := needsValue_of_isUnfilledParameter member unfilled
  exact absurd needed (Bool.eq_false_iff.1 (passed.unneeded enforced p declared unbound unresolved))

end Check

end ShellTemplate
