import ShellTemplate.Proofs.ReportedWarnings
import ShellTemplate.Proofs.RestatedUpdates
import ShellTemplate.Proofs.SessionIndependence

namespace ShellTemplate

/-- The outcome without id and times. -/
def UpdateOutcome.unstamped (o : UpdateOutcome) : UpdateOutcome :=
  { o with command? := o.command?.map fun d => { d with id? := none, createdAt? := none, updatedAt? := none } }

namespace Session

open Report

/-- What is wrong with a new definition or its template. -/
def faults (s : Session) (context : SessionContext) (d : Definition) : Report :=
  .guarded s.settings.validation (d.check context.creation) ++ (Structure.ofCommand d.command).check false true

/-- What is found about security. -/
def advice (s : Session) (d : Definition) : Report :=
  { warnings := if s.settings.security then (Security.scan d.command (Structure.ofCommand d.command)).warnings else [] }

section

variable {s t : Session} {context : SessionContext} {stamp stamp' : Stamp} {d : Definition} {id : String}
  {updates : List (String × Json)}

theorem creationFindings_eq (s : Session) (context : SessionContext) (d : Definition) :
    s.creationFindings context d =
      (if s.settings.strict then (s.faults context d).escalate else s.faults context d) ++ s.advice d := by
  unfold creationFindings advice analysisOptions Analysis.ofCommand
  cases s.settings.security <;> rfl

theorem report_create : (s.create context stamp d).1.report = s.creationFindings context d.normalized := by
  unfold create
  dsimp only
  split <;> rfl

theorem success_create : (s.create context stamp d).1.success = (s.creationFindings context d.normalized).isValid := by
  unfold create
  dsimp only
  split
  · rename_i valid
    exact valid.symm
  · rename_i invalid
    exact (Bool.eq_false_iff.2 invalid).symm

theorem command?_create : (s.create context stamp d).1.command? =
    if (s.creationFindings context d.normalized).isValid then
      some { d.normalized.stamped stamp with isUserCreated? := some true }
    else none := by
  unfold create creationFindings
  dsimp only
  split <;> rfl

theorem isValid_creationFindings :
    (s.creationFindings context d).isValid = true ↔
      if s.settings.strict then (s.faults context d).IsQuiet else (s.faults context d).isValid = true := by
  have harmless : (s.advice d).isValid = true := rfl
  rw [creationFindings_eq, isValid_append, and_iff_left harmless]
  split
  · exact isValid_escalate
  · rfl

theorem warningsAre_faults (s : Session) (context : SessionContext) (d : Definition) :
    WarningsAre Diagnostic.IsFault (s.faults context d) :=
  warningsAre_append.2 ⟨warningsAre_guarded.2 fun _ => Check.definition_faults d _, Check.structure_faults _ _⟩

theorem warningsAre_advice (s : Session) (d : Definition) : WarningsAre Diagnostic.IsAdvice (s.advice d) := by
  unfold advice
  split
  · exact Security.scan_advice _ _
  · exact warningsAre_empty

theorem create_strict_iff (lenient : s.settings.strict = false) (strict : t.settings = { s.settings with strict := true }) :
    (t.create context stamp' d).1.success = true ↔ (s.create context stamp d).1.success = true ∧
      WarningsAre Diagnostic.IsAdvice (s.create context stamp d).1.report := by
  have same : t.faults context d.normalized = s.faults context d.normalized := by
    rw [faults, strict, faults]
  have isFault : WarningsAre (¬ Diagnostic.IsAdvice ·) (s.faults context d.normalized) :=
    fun w member => (warningsAre_faults s context d.normalized w member).notAdvice
  rw [success_create, success_create, report_create, isValid_creationFindings, isValid_creationFindings,
    creationFindings_eq, strict, lenient, same, warningsAre_append]
  exact isQuiet_iff_warningsAre isFault (warningsAre_advice s d.normalized)

/-- Security has no part in what a creation makes, nor in what stops it. -/
theorem create_of_security {security : Bool} (toggled : t.settings = { s.settings with security }) :
    (t.create context stamp' d).1.success = (s.create context stamp d).1.success ∧
      (t.create context stamp' d).1.report.errors = (s.create context stamp d).1.report.errors ∧
      (t.create context stamp' d).1.report.suggestions = (s.create context stamp d).1.report.suggestions ∧
      (t.create context stamp' d).1.unstamped.command? = (s.create context stamp d).1.unstamped.command? := by
  have same : t.faults context d.normalized = s.faults context d.normalized := by
    rw [faults, toggled, faults]
  have errors : (t.creationFindings context d.normalized).errors = (s.creationFindings context d.normalized).errors := by
    rw [creationFindings_eq, creationFindings_eq, same, toggled]
    rfl
  have valid : (t.creationFindings context d.normalized).isValid = (s.creationFindings context d.normalized).isValid :=
    congrArg List.isEmpty errors
  refine ⟨?_, ?_, ?_, ?_⟩
  · rw [success_create, success_create, valid]
  · rw [report_create, report_create, errors]
  · rw [report_create, report_create, creationFindings_eq, creationFindings_eq, same, toggled]
    rfl
  · unfold CreateOutcome.unstamped
    dsimp only
    rw [command?_create, command?_create, valid]
    split <;> rfl

theorem revise_eq_ok_iff {current merged : Definition} {report : Report} :
    s.revise context current updates = .ok (merged, report) ↔ (protectedReport current updates).isValid = true ∧
      ∃ read, Definition.record.ofMembers false (mergedFields current updates).toList = .ok read ∧
        merged = read.normalized ∧ (s.updateReport merged context).isValid = true ∧
        report = ignoredReport updates ++ s.updateReport merged context := by
  unfold revise
  dsimp only
  cases (protectedReport current updates).isValid with
  | false => exact ⟨nofun, nofun⟩
  | true =>
    cases Definition.record.ofMembers false (mergedFields current updates).toList with
    | error e => exact ⟨nofun, nofun⟩
    | ok read =>
      simp only [Bool.not_true, Bool.false_eq_true, if_false, isValid_append, ignoredReport_isValid, true_and,
        Except.ok.injEq, exists_eq_left']
      split
      · rename_i valid
        constructor
        · intro made
          cases made
          exact ⟨rfl, valid, rfl⟩
        · rintro ⟨rfl, _, rfl⟩
          rfl
      · rename_i invalid
        exact ⟨nofun, by rintro ⟨rfl, valid, _⟩; exact absurd valid invalid⟩

theorem warningsAre_ignoredReport (updates : List (String × Json)) :
    WarningsAre Diagnostic.IsIgnored (ignoredReport updates) := by
  refine warningsAre_concat.2 (List.forall_mem_map.2 fun entry _ => warningsAre_guarded.2 fun _ => ?_)
  exact warningsAre_warning.2 ⟨entry.1, rfl⟩

theorem update_strict_iff (lenient : s.settings.strict = false) (strict : t.settings = { s.settings with strict := true })
    (original : context.current?.or (t.history.latestCommand? id) = context.current?.or (s.history.latestCommand? id)) :
    (t.update context stamp' id updates).1.success = true ↔ (s.update context stamp id updates).1.success = true ∧
      WarningsAre Diagnostic.IsIgnored (s.update context stamp id updates).1.report := by
  have base : t.updateBase context id = s.updateBase context id := by
    rw [updateBase, original, strict, updateBase]
  -- the report of the lenient update is the fields it ignores and then the faults, which strictness forbids
  have decides (merged : Definition) : (t.updateReport merged context).isValid = true ↔
      (s.updateReport merged context).isValid = true ∧
        WarningsAre Diagnostic.IsIgnored (ignoredReport updates ++ s.updateReport merged context) := by
    let faults := Report.guarded s.settings.validation (merged.check context.creation)
    have isFault : WarningsAre (¬ Diagnostic.IsIgnored ·) faults := fun w member =>
      (warningsAre_guarded.2 (fun _ => Check.definition_faults merged context.creation) w member).notIgnored
    have quiet := isQuiet_iff_warningsAre isFault (warningsAre_ignoredReport updates)
    rw [warningsAre_append, and_comm (a := WarningsAre _ (ignoredReport updates)), updateReport, updateReport, strict, lenient]
    exact isValid_escalate.trans quiet
  rw [success_update_iff, success_update_iff]
  constructor
  · rintro ⟨current, merged, _, found, revised⟩
    obtain ⟨unprotected, read, decoded, same, valid, _⟩ := revise_eq_ok_iff.1 revised
    obtain ⟨accepted, ignored⟩ := (decides merged).1 valid
    have lenient := revise_eq_ok_iff.2 ⟨unprotected, read, decoded, same, accepted, rfl⟩
    rw [base] at found
    rw [update_of_revised found lenient]
    exact ⟨⟨current, merged, _, found, lenient⟩, ignored⟩
  · rintro ⟨⟨current, merged, _, found, revised⟩, ignored⟩
    rw [update_of_revised found revised] at ignored
    obtain ⟨unprotected, read, decoded, same, accepted, rfl⟩ := revise_eq_ok_iff.1 revised
    have valid := (decides merged).2 ⟨accepted, ignored⟩
    exact ⟨current, merged, _, base.trans found, revise_eq_ok_iff.2 ⟨unprotected, read, decoded, same, valid, rfl⟩⟩

theorem update_of_security {security : Bool} (toggled : t.settings = { s.settings with security })
    (original : context.current?.or (t.history.latestCommand? id) = context.current?.or (s.history.latestCommand? id)) :
    (t.update context stamp' id updates).1.unstamped = (s.update context stamp id updates).1.unstamped := by
  have base : t.updateBase context id = s.updateBase context id := by
    rw [updateBase, original, toggled, updateBase]
  have report (merged : Definition) : t.updateReport merged context = s.updateReport merged context := by
    rw [updateReport, toggled, updateReport]
  have revise (current : Definition) : t.revise context current updates = s.revise context current updates := by
    unfold revise
    simp only [report]
  unfold update
  rw [base]
  cases s.updateBase context id with
  | error found => rfl
  | ok current =>
    simp only [revise]
    cases s.revise context current updates <;> rfl

/-- Where strictness is all that differs, it refuses what was warned of and nothing else: a creation unless all warnings
are advice about security, an update unless all are about fields that do not matter. And where all that differs is
whether security is checked, the same is made and the same stops it. -/
theorem strict_refuses_warned (s t : Session) (context : SessionContext) (stamp stamp' : Stamp) (d : Definition)
    (id : String) (updates : List (String × Json)) :
    (s.settings.strict = false → t.settings = { s.settings with strict := true } →
      ((t.create context stamp' d).1.success = true ↔ (s.create context stamp d).1.success = true ∧
        ∀ w ∈ (s.create context stamp d).1.report.warnings, w.category = .security) ∧
      (context.current?.or (t.history.latestCommand? id) = context.current?.or (s.history.latestCommand? id) →
        ((t.update context stamp' id updates).1.success = true ↔ (s.update context stamp id updates).1.success = true ∧
          ∀ w ∈ (s.update context stamp id updates).1.report.warnings, ∃ field, w.issue = .nonUpdatableField field))) ∧
    ∀ security, t.settings = { s.settings with security } →
      ((t.create context stamp' d).1.success = (s.create context stamp d).1.success ∧
        (t.create context stamp' d).1.report.errors = (s.create context stamp d).1.report.errors ∧
        (t.create context stamp' d).1.report.suggestions = (s.create context stamp d).1.report.suggestions ∧
        (t.create context stamp' d).1.unstamped.command? = (s.create context stamp d).1.unstamped.command?) ∧
      (context.current?.or (t.history.latestCommand? id) = context.current?.or (s.history.latestCommand? id) →
        (t.update context stamp' id updates).1.unstamped = (s.update context stamp id updates).1.unstamped) :=
  ⟨fun lenient strict => ⟨create_strict_iff lenient strict, update_strict_iff lenient strict⟩,
    fun _ toggled => ⟨create_of_security toggled, update_of_security toggled⟩⟩

/-- A removal is only warned of, also by a strict session, and so is a field of an update that does not matter; a
parameter that the template does not use is refused. -/
theorem strict_refuses_warned_of_removal :
    let stamp : Stamp := ⟨"2024-05-01T00:00:00Z", "cmd_1"⟩
    let d : Definition :=
      { name := "clean", description := "Removes what was built", command := "rm -rf build", category? := some "files" }
    let unused : Definition := { d with parameters := [{ name := "target", description := "What to remove" }] }
    let context : SessionContext := { current? := some d }
    let updates : List (String × Json) := [("usageCount", .integer 3)]
    let lenient := ofSettings {}
    let strict := ofSettings { strict := true }
    let silent := ofSettings { security := false }
    (strict.create context stamp d).1.success = true ∧ (strict.create context stamp unused).1.success = false ∧
      (strict.update context stamp "clean" updates).1.success = true ∧
      (silent.create context stamp d).1.success = true ∧
      (silent.update context stamp "clean" updates).1.unstamped =
        (lenient.update context stamp "clean" updates).1.unstamped := by
  intro stamp d unused context updates lenient strict silent
  obtain ⟨stricter, _⟩ := strict_refuses_warned lenient strict context stamp stamp d "clean" updates
  obtain ⟨refuses, _⟩ := strict_refuses_warned lenient strict context stamp stamp unused "clean" updates
  obtain ⟨_, toggled⟩ := strict_refuses_warned lenient silent context stamp stamp d "clean" updates
  obtain ⟨created, updated⟩ := stricter rfl rfl
  obtain ⟨same, alike⟩ := toggled false rfl
  have accepted : (lenient.create context stamp d).1.success = true := by decide +kernel
  have advice : ∀ w ∈ (lenient.create context stamp d).1.report.warnings, w.category = .security := by decide +kernel
  have fault : ¬ ∀ w ∈ (lenient.create context stamp unused).1.report.warnings, w.category = .security := by decide +kernel
  have kept : (lenient.update context stamp "clean" updates).1.success = true := by decide +kernel
  have ignored : (lenient.update context stamp "clean" updates).1.report.warnings =
      [.ofIssue .warning (.nonUpdatableField "usageCount") (some "usageCount")] := by
    decide +kernel
  refine ⟨created.2 ⟨accepted, advice⟩, ?_, (updated rfl).2 ⟨kept, ?_⟩, same.1.trans accepted, alike rfl⟩
  · exact Bool.eq_false_iff.2 fun success => fault ((refuses rfl rfl).1.1 success).2
  · rw [ignored]
    exact fun w member => ⟨_, congrArg Diagnostic.issue (List.mem_singleton.1 member)⟩

end

end Session

end ShellTemplate
