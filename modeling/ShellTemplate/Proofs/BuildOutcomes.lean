import ShellTemplate.Proofs.MissingValues
import ShellTemplate.Proofs.TemplateBuild

namespace ShellTemplate

namespace Build

variable {d : Definition} {s : Selection} {e : BuildError}

theorem build_of_undeclared (undeclared : checkReferences d s = .error e) : d.build s = .error e := by
  unfold Definition.build
  rw [undeclared]
  rfl

/-- Building fails for a name that is not declared or, in executable mode alone, for lack of a value. -/
theorem build_error_cases (failed : d.build s = .error e) :
    checkReferences d s = .error e ∨
      checkReferences d s = .ok () ∧ s.mode = .executable ∧ ∃ name, Lacks d s name ∧ e = .missingRequiredValue name := by
  cases references : checkReferences d s with
  | error e' =>
    rw [build_of_undeclared references] at failed
    exact Or.inl (congrArg _ (Except.error.inj failed))
  | ok _ =>
    refine Or.inr ⟨rfl, ?_⟩
    cases mode : s.mode with
    | validation =>
      rw [Definition.build, references, mode] at failed
      cases failed
    | template =>
      rw [build_eq_shownPieces mode references] at failed
      cases failed
    | executable =>
      rw [Definition.build, references, mode] at failed
      cases made : pieces d s with
      | ok ps =>
        rw [made] at failed
        cases failed
      | error e' =>
        rw [made] at failed
        cases failed
        exact ⟨rfl, pieces_onlyLacks d s e made⟩

theorem checkReferences_ne_missingRequiredValue (name : String) :
    checkReferences d s ≠ .error (.missingRequiredValue name) := by
  unfold checkReferences
  repeat' split
  all_goals nofun

theorem lacks_of_missing {name : String} (failed : d.build s = .error (.missingRequiredValue name)) :
    checkReferences d s = .ok () ∧ s.mode = .executable ∧ Lacks d s name := by
  rcases build_error_cases failed with undeclared | ⟨references, executable, _, lacks, ⟨⟩⟩
  · exact absurd undeclared (checkReferences_ne_missingRequiredValue name)
  · exact ⟨references, executable, lacks⟩

theorem result_of_validation (mode : s.mode = .validation) : (d.build s).toOption.join = none := by
  rw [Definition.build, mode]
  cases checkReferences d s <;> rfl

/-- What is built is a command line unless nothing was to be built. -/
theorem isSome_of_build {built? : Option String} (done : d.build s = .ok built?) :
    built?.isSome = true ↔ s.mode ≠ .validation := by
  obtain ⟨_, references, made⟩ := bind_eq_ok_iff.1 done
  cases mode : s.mode with
  | validation =>
    rw [mode] at made
    cases made
    simp
  | template =>
    cases done.symm.trans (build_eq_shownPieces mode references)
    simp
  | executable =>
    obtain ⟨_, ps, _, rfl⟩ := (build_eq_ok_iff mode).1 done
    simp

end Build

namespace Session

variable {report : Report}

section

variable (report)

theorem snd_withBuild (result : Except BuildError (Option String)) :
    (withBuild report result).2 = result.toOption.join := by
  cases result <;> rfl

/-- What was found before a build stays. -/
theorem errors_subset_withBuild (result : Except BuildError (Option String)) :
    report.errors ⊆ (withBuild report result).1.errors := by
  cases result with
  | ok built? => exact List.Subset.refl _
  | error e =>
    rw [withBuild, Report.errors_append]
    exact List.subset_append_left _ _

/-- Nothing is wrong after a build if nothing was wrong before it and it is done. -/
theorem isValid_withBuild (result : Except BuildError (Option String)) :
    (withBuild report result).1.isValid = true ↔ report.isValid = true ∧ ∃ built?, result = .ok built? := by
  cases result with
  | ok built? => exact ⟨fun valid => ⟨valid, built?, rfl⟩, And.left⟩
  | error e =>
    refine ⟨fun valid => ?_, fun ⟨_, _, done⟩ => nomatch done⟩
    rw [withBuild, Report.isValid_iff, Report.errors_append, List.append_eq_nil_iff, ← Report.isValid_iff] at valid
    rw [valid.1] at valid
    exact nomatch valid.2

end

/-- A build that cannot be done adds nothing to the errors that were found before. -/
theorem errors_withBuild_of_invalid (e : BuildError) (invalid : report.isValid ≠ true) :
    (withBuild report (.error e)).1.errors = report.errors := by
  rw [withBuild, Bool.eq_false_iff.2 invalid]
  exact List.append_nil _

/-- A build that cannot be done is told unless something is wrong anyway. -/
theorem failure_mem_withBuild (e : BuildError) (valid : report.isValid = true) :
    Diagnostic.ofIssue .error (.failure e.message) (some "general") ∈ (withBuild report (.error e)).1.errors := by
  rw [withBuild, valid]
  exact List.mem_append_right _ (List.mem_singleton_self _)

section

variable (s : Session) (stamp : Stamp) (d : Definition) (selection : Selection)

/-- What is found about a selection and in building its template. -/
def templateReport : Report :=
  (withBuild (s.buildReport d selection).1 (d.build { selection with mode := .template })).1

theorem report_build :
    (s.build stamp d selection).1.report =
      if selection.mode = .executable then (withBuild (s.templateReport d selection) (d.build selection)).1
      else s.templateReport d selection := by
  unfold build templateReport
  cases selection.mode <;> rfl

theorem template?_build :
    (s.build stamp d selection).1.template? = (d.build { selection with mode := .template }).toOption.join := by
  rw [← snd_withBuild (s.buildReport d selection).1]
  rfl

theorem built?_build : (s.build stamp d selection).1.built? = (d.build selection).toOption.join := by
  unfold build
  cases mode : selection.mode with
  | validation => exact (Build.result_of_validation mode).symm
  | template =>
    have alike : { selection with mode := .template } = selection := by rw [← mode]
    rw [alike]
    exact snd_withBuild _ _
  | executable => exact snd_withBuild _ _

theorem success_build : (s.build stamp d selection).1.success = (s.build stamp d selection).1.report.isValid := rfl

theorem event_build :
    (s.build stamp d selection).2.1 =
      .built d selection.mode (s.build stamp d selection).1.built? (s.build stamp d selection).1.success := rfl

end

variable {s : Session} {stamp : Stamp} {d : Definition} {selection : Selection}

/-- What was found in building the template is told in the outcome. -/
theorem errors_templateReport_subset :
    (s.templateReport d selection).errors ⊆ (s.build stamp d selection).1.report.errors := by
  rw [report_build]
  split
  · exact errors_subset_withBuild _ _
  · exact List.Subset.refl _

/-- A build succeeds only if the template and the command are built. -/
theorem builds_of_success (success : (s.build stamp d selection).1.success = true) :
    (∃ template?, d.build { selection with mode := .template } = .ok template?) ∧
      ∃ built?, d.build selection = .ok built? := by
  rw [success_build, report_build] at success
  have shown : (s.templateReport d selection).isValid = true := by
    split at success
    · exact ((isValid_withBuild _ _).1 success).1
    · exact success
  obtain ⟨_, template?, template⟩ := (isValid_withBuild _ _).1 shown
  refine ⟨⟨template?, template⟩, ?_⟩
  by_cases executable : selection.mode = .executable
  · rw [if_pos executable] at success
    exact ((isValid_withBuild _ _).1 success).2
  · cases made : d.build selection with
    | ok built? => exact ⟨built?, rfl⟩
    | error e =>
      rcases Build.build_error_cases made with undeclared | ⟨_, mode, _⟩
      · exact nomatch template.symm.trans (Build.build_of_undeclared undeclared)
      · exact absurd mode executable

/-- What a selection names and the definition does not declare is told with the findings about the template,
by the check of the selection or by the build. -/
theorem undeclared_mem_templateReport {e : BuildError} (undeclared : Build.checkReferences d selection = .error e) :
    Diagnostic.ofIssue .error (.failure e.message) (some "general") ∈ (s.templateReport d selection).errors := by
  have failed : d.build { selection with mode := .template } = .error e := Build.build_of_undeclared undeclared
  unfold templateReport
  rw [failed, buildReport_eq]
  cases s.settings.validation with
  | false => exact failure_mem_withBuild e rfl
  | true =>
    refine errors_subset_withBuild _ _ ?_
    rw [if_pos rfl, Definition.run_checkBuildWith, undeclared]
    exact List.mem_singleton_self _

/-- The build stops at this place for lack of its value and nothing tells so: the check of the selection does not see
the place, and what it finds wrong elsewhere holds the error of the build back. -/
def isDropped (s : Session) (d : Definition) (selection : Selection) (p : Placeholder) : Bool :=
  Check.isUnseen d selection p && decide (d.build selection = .error (.missingRequiredValue p.name)) &&
    !(s.buildReport d selection).1.isValid && !(s.buildReport d selection).1.hasError (Issue.tellsMissing d p.name)

theorem unseen_of_isDropped {p : Placeholder} (dropped : s.isDropped d selection p = true) :
    Check.isUnseen d selection p = true ∧ d.build selection = .error (.missingRequiredValue p.name) := by
  simp only [isDropped, Bool.and_eq_true, decide_eq_true_eq] at dropped
  exact dropped.1.1

section

variable {name : String} (failed : d.build selection = .error (.missingRequiredValue name))

include failed

/-- If the command lacks a value, its own error alone can come to what the check of the selection finds. -/
theorem report_of_missing :
    (s.build stamp d selection).1.report =
      (withBuild (s.buildReport d selection).1 (.error (.missingRequiredValue name))).1 := by
  obtain ⟨references, executable, _⟩ := Build.lacks_of_missing failed
  have shown := Build.build_eq_shownPieces (d := d) (s := { selection with mode := .template }) rfl references
  rw [report_build, if_pos executable, failed, templateReport, shown]
  rfl

theorem hasError_buildReport :
    (s.buildReport d selection).1.hasError (Issue.tellsOf d (.missingRequiredValue name)) =
      (s.buildReport d selection).1.hasError (Issue.tellsMissing d name) := by
  rw [buildReport_eq]
  split
  · cases checked : ((d.checkBuildWith selection).run.run s.classifier).1 with
    | ok r => exact Check.hasError_tellsOf checked name
    | error e =>
      have references := (Build.lacks_of_missing failed).1
      rw [Definition.run_checkBuildWith, references] at checked
      exact nomatch (Check.conclude_eq references _).symm.trans checked
  · rfl

/-- If the check of the selection finds errors and a value is missing, it tells so or does not see the place. -/
theorem tells_or_unseen_of_missing (invalid : (s.buildReport d selection).1.isValid ≠ true) :
    (s.buildReport d selection).1.hasError (Issue.tellsMissing d name) = true ∨
      ∃ p ∈ d.occurrences, Check.isUnseen d selection p = true ∧ p.name = name := by
  obtain ⟨references, executable, lacks⟩ := Build.lacks_of_missing failed
  rw [buildReport_eq] at invalid ⊢
  split at invalid
  · rename_i validation
    rw [if_pos validation]
    obtain ⟨r, checked, told⟩ := Check.tells_or_unseen_of_lacks executable references lacks s.classifier
    rw [checked]
    exact told
  · exact absurd rfl invalid

end

section

variable {e : BuildError}
  (failed : d.build { selection with mode := .template } = .error e ∨ d.build selection = .error e)

include failed

/-- Why one of the two builds fails: a name that is not declared, for both, or a value that the command lacks. -/
theorem build_error_cases :
    Build.checkReferences d selection = .error e ∨
      ∃ name, e = .missingRequiredValue name ∧ d.build selection = .error (.missingRequiredValue name) := by
  rcases failed with failed | failed
  · rcases Build.build_error_cases failed with undeclared | ⟨_, mode, _⟩
    · exact Or.inl undeclared
    · exact nomatch mode
  · rcases Build.build_error_cases failed with undeclared | ⟨_, _, name, _, rfl⟩
    · exact Or.inl undeclared
    · exact Or.inr ⟨name, rfl, failed⟩

/-- The error of a build is told in the outcome unless it is dropped at a place of the template. -/
theorem tellsOf_iff :
    (s.build stamp d selection).1.report.hasError (Issue.tellsOf d e) = true ↔
      ∀ p ∈ d.occurrences, s.isDropped d selection p = false := by
  have words : (Issue.failure e.message).tellsOf d e = true := by simp [Issue.tellsOf]
  rcases build_error_cases failed with undeclared | ⟨name, rfl, stopped⟩
  · have told : _ ∈ (s.build stamp d selection).1.report.errors :=
      errors_templateReport_subset (undeclared_mem_templateReport undeclared)
    refine iff_of_true (Report.hasError_of_mem told words) fun p _ => ?_
    have other : d.build selection ≠ .error (.missingRequiredValue p.name) := by
      intro stopped
      cases undeclared.symm.trans (Build.lacks_of_missing stopped).1
    simp [isDropped, other]
  · rw [report_of_missing stopped]
    by_cases valid : (s.buildReport d selection).1.isValid = true
    · exact iff_of_true (Report.hasError_of_mem (failure_mem_withBuild _ valid) words) fun p _ => by simp [isDropped, valid]
    · have kept := errors_withBuild_of_invalid (.missingRequiredValue name) valid
      rw [Report.hasError, kept, ← Report.hasError, hasError_buildReport stopped]
      constructor
      · intro told p _
        by_cases same : p.name = name
        · simp [isDropped, same, told]
        · simp [isDropped, stopped, Ne.symm same]
      · intro seen
        rcases tells_or_unseen_of_missing stopped valid with told | ⟨p, member, unseen, rfl⟩
        · exact told
        · have stays := seen p member
          simpa [isDropped, unseen, stopped, Bool.eq_false_iff.2 valid] using stays

/-- The error of a build is told in the outcome, or it is of a place that the check of the selection does not see. -/
theorem tells_or_unseen_of_failed :
    (s.build stamp d selection).1.report.hasError (Issue.tellsOf d e) = true ∨
      ∃ p ∈ d.occurrences, Check.isUnseen d selection p = true ∧ e = .missingRequiredValue p.name := by
  by_cases kept : ∀ p ∈ d.occurrences, s.isDropped d selection p = false
  · exact Or.inl ((tellsOf_iff failed).2 kept)
  · obtain ⟨p, member, dropped⟩ : ∃ p ∈ d.occurrences, s.isDropped d selection p = true := by simpa using kept
    obtain ⟨unseen, stopped⟩ := unseen_of_isDropped dropped
    refine Or.inr ⟨p, member, unseen, ?_⟩
    rcases build_error_cases failed with undeclared | ⟨name, rfl, same⟩
    · cases undeclared.symm.trans (Build.lacks_of_missing stopped).1
    · exact Except.error.inj (same.symm.trans stopped)

/-- Where the tokens of the template hold its placeholders, the error of a build is always told. -/
theorem tellsOf_of_isAligned (aligned : d.IsAligned) :
    (s.build stamp d selection).1.report.hasError (Issue.tellsOf d e) = true := by
  rcases tells_or_unseen_of_failed failed with told | ⟨p, member, unseen, _⟩
  · exact told
  · rw [Check.isUnseen_of_isAligned aligned member] at unseen
    contradiction

/-- A build that fails leaves an error, its own or another one. -/
theorem errors_ne_nil_of_failed : (s.build stamp d selection).1.report.errors ≠ [] := by
  intro none
  have success : (s.build stamp d selection).1.success = true := Report.isValid_iff.2 none
  obtain ⟨⟨_, shown⟩, _, made⟩ := builds_of_success success
  rcases failed with failed | failed
  · exact nomatch failed.symm.trans shown
  · exact nomatch failed.symm.trans made

end

/-- The errors of both builds are told exactly as long as no place of the template drops one. -/
theorem forall_tellsOf_iff :
    (∀ e, d.build { selection with mode := .template } = .error e ∨ d.build selection = .error e →
        (s.build stamp d selection).1.report.hasError (Issue.tellsOf d e) = true) ↔
      ∀ p ∈ d.occurrences, s.isDropped d selection p = false := by
  refine ⟨fun told p member => Bool.eq_false_iff.2 fun dropped => ?_, fun kept e failed => (tellsOf_iff failed).2 kept⟩
  have failed := (unseen_of_isDropped dropped).2
  have kept := (tellsOf_iff (Or.inr failed)).1 (told _ (Or.inr failed)) p member
  rw [kept] at dropped
  contradiction

/-- What a build that succeeds leaves behind: a template, and a command unless none was to be built. -/
theorem isSome_of_success (success : (s.build stamp d selection).1.success = true) :
    (s.build stamp d selection).1.template?.isSome = true ∧
      ((s.build stamp d selection).1.built?.isSome = true ↔ selection.mode ≠ .validation) := by
  obtain ⟨⟨template?, shown⟩, built?, made⟩ := builds_of_success success
  rw [template?_build, built?_build, shown, made]
  exact ⟨(Build.isSome_of_build shown).2 (by simp), Build.isSome_of_build made⟩

theorem built?_eq_template? (template : selection.mode = .template) :
    (s.build stamp d selection).1.built? = (s.build stamp d selection).1.template? := by
  have alike : { selection with mode := .template } = selection := by rw [← template]
  rw [template?_build, built?_build, alike]

theorem getLast?_builds_build {id : String} (named : d.id? = some id) :
    (Timeline.entries (s.build stamp d selection).2.2.history.builds id).getLast? =
      some ⟨selection, (s.build stamp d selection).1.built?, (s.build stamp d selection).1.success, stamp.moment⟩ := by
  rw [history_build, named]
  exact Timeline.getLast?_entries_push _ _ _ _

/-- The outcome of a build, the record of it and what observers are told of it fit together, whatever the check of
the selection finds and whichever of the two builds fails. A build that fails always leaves an error. Its own is told
except for places that the check does not see, and always exactly as long as no place of the template drops it. -/
theorem build_coherent_iff (s : Session) (stamp : Stamp) (d : Definition) (selection : Selection) :
    let outcome := (s.build stamp d selection).1
    (outcome.success = true ↔ outcome.report.errors = []) ∧
      (outcome.success = true →
        outcome.template?.isSome = true ∧ (outcome.built?.isSome = true ↔ selection.mode ≠ .validation)) ∧
      (selection.mode = .template → outcome.built? = outcome.template?) ∧
      (s.build stamp d selection).2.1 = .built d selection.mode outcome.built? outcome.success ∧
      (∀ id, d.id? = some id →
        (Timeline.entries (s.build stamp d selection).2.2.history.builds id).getLast? =
          some ⟨selection, outcome.built?, outcome.success, stamp.moment⟩) ∧
      (∀ e, d.build { selection with mode := .template } = .error e ∨ d.build selection = .error e →
        outcome.report.errors ≠ []) ∧
      (∀ e, d.build { selection with mode := .template } = .error e ∨ d.build selection = .error e →
        outcome.report.hasError (Issue.tellsOf d e) = true ∨
          ∃ p ∈ d.occurrences, Check.isUnseen d selection p = true ∧ e = .missingRequiredValue p.name) ∧
      ((∀ e, d.build { selection with mode := .template } = .error e ∨ d.build selection = .error e →
          outcome.report.hasError (Issue.tellsOf d e) = true) ↔
        ∀ p ∈ d.occurrences, s.isDropped d selection p = false) :=
  ⟨Report.isValid_iff, isSome_of_success, built?_eq_template?, event_build s stamp d selection,
    fun _ => getLast?_builds_build, fun _ => errors_ne_nil_of_failed, fun _ => tells_or_unseen_of_failed,
    forall_tellsOf_iff⟩

/-- A template that is built, and a command without its value, of which the check of the selection tells beside the
option that is not selected. -/
theorem build_coherent_of_missing_value :
    let s : Session := .ofSettings {}
    let stamp : Stamp := ⟨"noon", "fresh"⟩
    let d : Definition :=
      { id? := some "print", name := "print", command := "echo \x7b\x7bx\x7d\x7d", parameters := [{ name := "x" }]
        options := [{ flag? := some "-f", required := true }] }
    let shown : Selection := { options := SortedList.empty.insert "-f" }
    let lacking : Selection := { mode := .executable }
    ((s.build stamp d shown).1.success = true ∧ (s.build stamp d shown).1.built?.isSome = true ∧
      (s.build stamp d shown).1.built? = (s.build stamp d shown).1.template? ∧
      (Timeline.entries (s.build stamp d shown).2.2.history.builds "print").getLast? =
        some ⟨shown, (s.build stamp d shown).1.built?, (s.build stamp d shown).1.success, "noon"⟩) ∧
    d.build lacking = .error (.missingRequiredValue "x") ∧
      .requiredOptionNotSelected "-f" ∈ (s.build stamp d lacking).1.report.errors.map (·.issue) ∧
      (s.build stamp d lacking).1.report.hasError (Issue.tellsOf d (.missingRequiredValue "x")) = true := by
  intro s stamp d shown lacking
  have success : (s.build stamp d shown).1.success = true := by decide +kernel
  have failed : d.build lacking = .error (.missingRequiredValue "x") := by decide +kernel
  have kept : ∀ p ∈ d.occurrences, s.isDropped d lacking p = false := by decide +kernel
  obtain ⟨_, present, alike, _, recorded, _⟩ := build_coherent_iff s stamp d shown
  obtain ⟨_, _, _, _, _, _, _, told⟩ := build_coherent_iff s stamp d lacking
  exact ⟨⟨success, (present success).2.2 (by simp [shown]), alike rfl, recorded "print" rfl⟩, failed, by decide +kernel,
    told.2 kept _ (Or.inr failed)⟩

/-- The option that is not selected is told, and the value that the command lacks is not: the template by itself shows
one placeholder, for `x`, and its second word another one, for `y`. -/
theorem build_drops_missing_value :
    let s : Session := .ofSettings {}
    let stamp : Stamp := ⟨"noon", "fresh"⟩
    let d : Definition :=
      { name := "print", command := "echo \\\x7b\x7bx:a \x7b\x7by\x7d\x7d", parameters := [{ name := "x" }]
        options := [{ flag? := some "-f", required := true }] }
    let selection : Selection := { mode := .executable }
    d.build selection = .error (.missingRequiredValue "y") ∧
      (s.build stamp d selection).1.report.errors.map (·.issue) = [.requiredOptionNotSelected "-f"] ∧
      (s.build stamp d selection).1.report.hasError (Issue.tellsOf d (.missingRequiredValue "y")) = false := by
  decide +kernel

end Session

end ShellTemplate
