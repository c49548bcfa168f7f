import ShellTemplate.Proofs.RepeatedChecks

namespace ShellTemplate

/-- The issues that are about security. -/
theorem Issue.category_eq_security {issue : Issue} (about : issue.category = .security) :
    (∃ description, issue = .injectionPattern description) ∨ (∃ command, issue = .destructiveCommand command) ∨
      ∃ command, issue = .privilegeEscalation command := by
  cases issue with
  | injectionPattern description => exact .inl ⟨description, rfl⟩
  | destructiveCommand command => exact .inr (.inl ⟨command, rfl⟩)
  | privilegeEscalation command => exact .inr (.inr ⟨command, rfl⟩)
  | _ => cases about

namespace Diagnostic

/-- The finding is about how harmful a command line is, and no more than advice. -/
def IsAdvice (w : Diagnostic) : Prop :=
  w.category = .security

/-- The finding is about a field of an update that does not matter. -/
def IsIgnored (w : Diagnostic) : Prop :=
  ∃ field, w.issue = .nonUpdatableField field

/-- The finding is a fault of a definition or a template. -/
structure IsFault (w : Diagnostic) : Prop where
  notAdvice : ¬ w.IsAdvice
  notIgnored : ¬ w.IsIgnored

@[simp] theorem isFault_ofIssue {severity : Severity} {issue : Issue} {field? : Option String} :
    (ofIssue severity issue field?).IsFault ↔
      (∀ description, issue ≠ .injectionPattern description) ∧ (∀ command, issue ≠ .destructiveCommand command) ∧
        (∀ command, issue ≠ .privilegeEscalation command) ∧ ∀ field, issue ≠ .nonUpdatableField field := by
  constructor
  · rintro ⟨notAdvice, notIgnored⟩
    refine ⟨?_, ?_, ?_, fun field same => notIgnored ⟨field, same⟩⟩
    all_goals
      rintro _ rfl
      exact notAdvice rfl
  · rintro ⟨injection, destructive, privilege, other⟩
    refine ⟨fun isAdvice => ?_, fun ⟨field, same⟩ => other field same⟩
    rcases Issue.category_eq_security isAdvice with ⟨_, rfl⟩ | ⟨_, rfl⟩ | ⟨_, rfl⟩
    · exact injection _ rfl
    · exact destructive _ rfl
    · exact privilege _ rfl

end Diagnostic

namespace Report

/-- Every warning of the report has the property. -/
def WarningsAre (p : Diagnostic → Prop) (r : Report) : Prop :=
  ∀ w ∈ r.warnings, p w

variable {p : Diagnostic → Prop}

@[simp] theorem warningsAre_empty : WarningsAre p {} := List.forall_mem_nil p

@[simp] theorem warningsAre_append {a b : Report} : WarningsAre p (a ++ b) ↔ WarningsAre p a ∧ WarningsAre p b :=
  List.forall_mem_append

@[simp] theorem warningsAre_concat {reports : List Report} :
    WarningsAre p (concat reports) ↔ ∀ r ∈ reports, WarningsAre p r := by
  induction reports with
  | nil => simp [concat]
  | cons r reports ih =>
    change WarningsAre p (r ++ concat reports) ↔ _
    rw [warningsAre_append, ih, List.forall_mem_cons]

@[simp] theorem warningsAre_guarded {condition : Bool} {r : Report} :
    WarningsAre p (guarded condition r) ↔ (condition = true → WarningsAre p r) := by
  cases condition <;> simp [guarded]

@[simp] theorem warningsAre_error {issue : Issue} {field? : Option String} : WarningsAre p (error issue field?) :=
  List.forall_mem_nil p

@[simp] theorem warningsAre_warning {issue : Issue} {field? : Option String} :
    WarningsAre p (warning issue field?) ↔ p (.ofIssue .warning issue field?) :=
  List.forall_mem_singleton

@[simp] theorem warningsAre_suggestion {issue : Issue} {field? : Option String} :
    WarningsAre p (suggestion issue field?) :=
  List.forall_mem_nil p

/-- Where all faults are of another kind than what is asked for, only a report without faults has warnings of that
kind alone. -/
theorem isQuiet_iff_warningsAre {faults more : Report} (isFault : WarningsAre (¬ p ·) faults)
    (rest : WarningsAre p more) :
    faults.IsQuiet ↔ faults.isValid = true ∧ WarningsAre p faults ∧ WarningsAre p more := by
  rw [IsQuiet, isValid_iff, and_iff_left rest]
  refine and_congr_right fun _ => ⟨fun none => ?_, fun only => ?_⟩
  · rw [WarningsAre, none]
    exact fun w member => absurd member List.not_mem_nil
  · exact List.eq_nil_iff_forall_not_mem.2 fun w member => isFault w member (only w member)

end Report

namespace Check

open Report

@[simp] theorem warningsAre_inCommand {p : Diagnostic → Prop} {issue : Issue} : WarningsAre p (inCommand issue) :=
  warningsAre_error

@[simp] theorem warningsAre_adviseCommand {p : Diagnostic → Prop} {issue : Issue} :
    WarningsAre p (adviseCommand issue) ↔ p (.ofIssue .warning issue (some "command")) :=
  warningsAre_warning

theorem ofIssue?_warningsAre (p : Diagnostic → Prop) (issue? : Option Issue) (field : String) :
    WarningsAre p (ofIssue? issue? field) := by
  cases issue? <;> simp [ofIssue?]

theorem tagList_warningsAre (p : Diagnostic → Prop) (seen tags : List String) : WarningsAre p (tagList seen tags) := by
  induction tags generalizing seen with
  | nil => exact warningsAre_empty
  | cons tag tags ih =>
    rw [tagList]
    split <;> simp [ih]

theorem parameter_faults (d : Definition) (afterOptional repeated : Bool) (p : Parameter) :
    WarningsAre Diagnostic.IsFault (parameter d afterOptional repeated p) := by
  unfold parameter
  cases p.parentOption? <;> cases danglingCondition? d p.condition? <;> cases Text.isBlankText p.description <;>
    simp

theorem parameterList_faults (d : Definition) (afterOptional : Bool) (seen : List String) (ps : List Parameter) :
    WarningsAre Diagnostic.IsFault (parameterList d afterOptional seen ps) := by
  induction ps generalizing afterOptional seen with
  | nil => exact warningsAre_empty
  | cons p ps ih =>
    rw [parameterList]
    split
    · exact warningsAre_append.2 ⟨warningsAre_error, ih _ _⟩
    · exact warningsAre_append.2 ⟨parameter_faults d _ _ p, ih _ _⟩

theorem flags_warningsAre (p : Diagnostic → Prop) (seen spellings : List String) :
    WarningsAre p (flags seen spellings) := by
  induction spellings generalizing seen with
  | nil => exact warningsAre_empty
  | cons flag spellings ih => simp [flags, ih]

theorem optionList_faults (d : Definition) (seen : List String) (os : List CommandOption) :
    WarningsAre Diagnostic.IsFault (optionList d seen os) := by
  induction os generalizing seen with
  | nil => exact warningsAre_empty
  | cons o os ih =>
    rw [optionList]
    cases o.primaryFlag? with
    | none => exact warningsAre_append.2 ⟨warningsAre_error, ih _⟩
    | some primary =>
      have details : WarningsAre Diagnostic.IsFault (optionDetails d primary o) := by
        refine warningsAre_append.2 ⟨by simp, warningsAre_concat.2 ?_⟩
        exact List.forall_mem_map.2 fun target _ => by simp
      simp [flags_warningsAre, details, ih]

/-- What the check of a definition warns of are its faults. -/
theorem definition_faults (d : Definition) (context : CreationContext) :
    WarningsAre Diagnostic.IsFault (d.check context) := by
  have texts : WarningsAre Diagnostic.IsFault (name d ++ description d ++ command d ++
      ofIssue? (categoryIssue? d context) "category" ++ tags d) := by
    simp [name, description, command, tags, tooMany, ofIssue?_warningsAre, tagList_warningsAre]
  have declared : WarningsAre Diagnostic.IsFault (parameters d ++ declaredOptions d) := by
    simp [parameters, declaredOptions, tooMany, parameterList_faults, optionList_faults]
  have rest : WarningsAre Diagnostic.IsFault (placeholders d ++ duplicates d context) := by
    simp [placeholders, duplicates]
  simp only [warningsAre_append] at texts declared rest
  simp only [Definition.check, warningsAre_append, texts, declared, rest, and_self]

theorem operators_faults (previous? : Option Token) (ts : List Token) :
    WarningsAre Diagnostic.IsFault (operators previous? ts) := by
  induction ts generalizing previous? with
  | nil => exact warningsAre_empty
  | cons t ts ih =>
    have one : WarningsAre Diagnostic.IsFault (operator previous? t ts.isEmpty) := by
      unfold operator
      split
      · exact warningsAre_empty
      · cases previous? <;> simp
    exact warningsAre_append.2 ⟨warningsAre_guarded.2 fun _ => one, ih _⟩

theorem options_faults (seen : List String) (ts : List Token) : WarningsAre Diagnostic.IsFault (options seen ts) := by
  induction ts generalizing seen with
  | nil => exact warningsAre_empty
  | cons t ts ih => simp [options, ih]

theorem components_faults (index : Nat) (cs : List Component) :
    WarningsAre Diagnostic.IsFault (components index cs) := by
  induction cs generalizing index with
  | nil => exact warningsAre_empty
  | cons c cs ih =>
    have one : WarningsAre Diagnostic.IsFault (component index c) := by
      unfold component
      split
      · exact warningsAre_empty
      · simp [options_faults]
    exact warningsAre_append.2 ⟨one, ih _⟩

/-- Security apart, what the check of a command line warns of are faults. -/
theorem structure_faults (s : Structure) (precedence : Bool) :
    WarningsAre Diagnostic.IsFault (s.check false precedence) := by
  unfold Structure.check
  split
  · simp
  · simp [operators_faults, components_faults, token, Check.precedence]

end Check

namespace Security

open Report

theorem component_advice (c : Component) : WarningsAre Diagnostic.IsAdvice (component c) := by
  have destroys (command : String) : WarningsAre Diagnostic.IsAdvice (destructive command) :=
    warningsAre_guarded.2 fun _ => warningsAre_warning.2 rfl
  unfold component
  split
  · exact warningsAre_empty
  · split
    · refine warningsAre_append.2 ⟨warningsAre_warning.2 rfl, ?_⟩
      split
      · exact warningsAre_empty
      · exact destroys _
    · exact destroys _

/-- The findings about security are advice. -/
theorem scan_advice (command : String) (s : Structure) : WarningsAre Diagnostic.IsAdvice (scan command s) := by
  refine warningsAre_append.2 ⟨warningsAre_concat.2 ?_, warningsAre_concat.2 ?_⟩
  · refine List.forall_mem_map.2 fun pattern _ => warningsAre_guarded.2 fun _ => warningsAre_warning.2 rfl
  · exact List.forall_mem_map.2 fun c _ => component_advice c

end Security

end ShellTemplate
