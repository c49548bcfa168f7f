import ShellTemplate.Check.Definition
import ShellTemplate.Proofs.ReportedErrors

namespace ShellTemplate

namespace Report

/-- Neither errors nor warnings were found. -/
def IsQuiet (r : Report) : Prop :=
  r.errors = [] ∧ r.warnings = []

@[simp] theorem isQuiet_empty : IsQuiet {} := ⟨rfl, rfl⟩

@[simp] theorem isQuiet_append {a b : Report} : IsQuiet (a ++ b) ↔ IsQuiet a ∧ IsQuiet b := by
  simp only [IsQuiet, errors_append, warnings_append, List.append_eq_nil_iff]
  exact and_and_and_comm

@[simp] theorem isQuiet_concat {reports : List Report} : IsQuiet (concat reports) ↔ ∀ r ∈ reports, IsQuiet r := by
  induction reports with
  | nil => simp [concat]
  | cons r reports ih =>
    change IsQuiet (r ++ concat reports) ↔ _
    rw [isQuiet_append, ih, List.forall_mem_cons]

@[simp] theorem isQuiet_guarded {condition : Bool} {r : Report} :
    IsQuiet (guarded condition r) ↔ (condition = true → IsQuiet r) := by
  cases condition <;> simp [guarded]

@[simp] theorem not_isQuiet_warning (issue : Issue) (field? : Option String) : ¬ IsQuiet (warning issue field?) := by
  simp [IsQuiet, warning]

theorem isValid_append {a b : Report} : (a ++ b).isValid = true ↔ a.isValid = true ∧ b.isValid = true := by
  simp only [isValid_iff, errors_append, List.append_eq_nil_iff]

/-- A strict reader accepts what is quiet. -/
theorem isValid_escalate {r : Report} : r.escalate.isValid = true ↔ r.IsQuiet := by
  simp [isValid_iff, escalate, IsQuiet]

end Report

/-- Another command has the name of a definition, in any case, or its template. -/
def Definition.Repeats (d other : Definition) : Prop :=
  Text.lowercase (Text.trim d.name) ≠ "" ∧ Text.lowercase (Text.trim other.name) = Text.lowercase (Text.trim d.name) ∨
    Text.trim d.command ≠ "" ∧ Text.trim other.command = Text.trim d.command

namespace Check

open Report

/-- The checks for which it does not matter which other commands there are. -/
def content (d : Definition) (context : CreationContext) : Report :=
  name d ++ description d ++ command d ++ ofIssue? (categoryIssue? d context) "category" ++ tags d ++ parameters d ++
    declaredOptions d ++ placeholders d

theorem check_eq (d : Definition) (context : CreationContext) :
    d.check context = content d context ++ duplicates d context := rfl

theorem parameterList_congr {d e : Definition} (same : parameter e = parameter d) (afterOptional : Bool)
    (seen : List String) (ps : List Parameter) :
    parameterList e afterOptional seen ps = parameterList d afterOptional seen ps := by
  induction ps generalizing afterOptional seen with
  | nil => rfl
  | cons p ps ih => rw [parameterList, parameterList, ih, ih, same]

theorem optionList_congr {d e : Definition} (same : optionDetails e = optionDetails d) (seen : List String)
    (os : List CommandOption) : optionList e seen os = optionList d seen os := by
  induction os generalizing seen with
  | nil => rfl
  | cons o os ih => simp only [optionList, ih, same]

/-- The id, the times, the version and the author have no part in the content. -/
theorem content_eq_of_stamps (d : Definition) (context : CreationContext) (id? createdAt? updatedAt? : Option String)
    (isUserCreated? : Option Bool) (version : UInt32) :
    content { d with id?, createdAt?, updatedAt?, isUserCreated?, version } context = content d context := by
  let e := { d with id?, createdAt?, updatedAt?, isUserCreated?, version }
  have parameters : Check.parameters e = Check.parameters d :=
    congrArg (tooMany "parameters" d.parameters.length parametersMax ++ ·)
      (parameterList_congr (d := d) (e := e) rfl false [] d.parameters)
  have options : declaredOptions e = declaredOptions d :=
    congrArg (tooMany "options" d.options.length optionsMax ++ ·) (optionList_congr (d := d) (e := e) rfl [] d.options)
  change content e context = _
  unfold content
  rw [parameters, options]
  rfl

theorem duplicates_isValid (d : Definition) (context : CreationContext) : (duplicates d context).isValid = true := by
  rw [isValid_iff, errors_eq_nil_iff]
  simp [duplicates]

theorem duplicates_isQuiet_iff {d : Definition} {context : CreationContext} :
    (duplicates d context).IsQuiet ↔
      ∀ other ∈ context.existing, (d.id?.isSome = true ∧ other.id? = d.id?) ∨ ¬ d.Repeats other := by
  unfold duplicates
  simp only [isQuiet_concat, List.forall_mem_map, isQuiet_guarded, isQuiet_append, not_isQuiet_warning, Definition.Repeats]
  refine forall₂_congr fun other member => ?_
  simp only [Bool.not_eq_true', ← Bool.not_eq_true, Bool.and_eq_true, beq_iff_eq, String.isEmpty_iff]
  rw [Classical.or_iff_not_imp_left]
  exact imp_congr_right fun _ => not_or.symm

end Check

end ShellTemplate
