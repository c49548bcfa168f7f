import ShellTemplate.Check.Definition
import ShellTemplate.Proofs.NormalDefinitions
import ShellTemplate.Proofs.ReportedErrors

namespace ShellTemplate

/-- The issue is none of those that normalizing takes away: a tag that stands twice, an option without a flag, and a
parameter without a name. -/
def Issue.IsTidy : Issue → Prop
  | .duplicateTag _ | .missingFlag => False
  | .missingField field => field ≠ "parameter name"
  | _ => True

namespace Check

open Report

/-- No tag is reported to stand twice exactly if, without regard to case, none does and none was seen before. -/
theorem tagList_errorsAre_isTidy_iff (seen tags : List String) :
    ErrorsAre Issue.IsTidy (tagList seen tags) ↔
      (tags.map Text.lowercase).Nodup ∧ ∀ tag ∈ tags, Text.lowercase tag ∉ seen := by
  induction tags generalizing seen with
  | nil => simp [tagList]
  | cons tag rest ih =>
    have form : ErrorsAre Issue.IsTidy (if tagMax < tag.length
        then .error (.tooLong ("tag " ++ tag) tagMax) (some "tags")
        else .guarded (tag.isEmpty || !tag.toList.all isTagChar) (.error (.invalidTag tag) (some "tags"))) := by
      split <;> simp [Issue.IsTidy]
    simp only [tagList, errorsAre_append, form, true_and, errorsAre_guarded, errorsAre_error, ih, List.map_cons,
      List.nodup_cons, List.contains_iff_mem, Issue.IsTidy, imp_false, List.mem_cons, not_or, List.mem_map, not_exists,
      not_and, forall_eq_or_imp]
    constructor
    · rintro ⟨new, once, apart⟩
      exact ⟨⟨fun other member => (apart other member).1, once⟩, new, fun other member => (apart other member).2⟩
    · rintro ⟨⟨differ, once⟩, new, apart⟩
      exact ⟨new, once, fun other member => ⟨differ other member, apart other member⟩⟩

theorem parameter_isTidy (d : Definition) (afterOptional repeated : Bool) (p : Parameter) :
    ErrorsAre Issue.IsTidy (parameter d afterOptional repeated p) := by
  unfold parameter
  cases Text.isBlankText p.description <;> cases p.parentOption? <;> cases danglingCondition? d p.condition? <;>
    simp [Issue.IsTidy]

theorem parameterList_errorsAre_isTidy_iff (d : Definition) (afterOptional : Bool) (seen : List String)
    (ps : List Parameter) :
    ErrorsAre Issue.IsTidy (parameterList d afterOptional seen ps) ↔ ∀ p ∈ ps, p.name ≠ "" := by
  induction ps generalizing afterOptional seen with
  | nil => simp [parameterList]
  | cons p rest ih =>
    unfold parameterList
    split
    · rename_i unnamed
      simp [Issue.IsTidy, String.isEmpty_iff.1 unnamed]
    · rename_i named
      rw [String.isEmpty_iff] at named
      simp [parameter_isTidy, ih, named]

theorem flags_isTidy (seen spellings : List String) : ErrorsAre Issue.IsTidy (flags seen spellings) := by
  induction spellings generalizing seen with
  | nil => exact errorsAre_empty
  | cons flag rest ih => simp [flags, Issue.IsTidy, ih]

theorem optionList_errorsAre_isTidy_iff (d : Definition) (seen : List String) (os : List CommandOption) :
    ErrorsAre Issue.IsTidy (optionList d seen os) ↔ ∀ o ∈ os, o.primaryFlag?.isSome = true := by
  induction os generalizing seen with
  | nil => simp [optionList]
  | cons o rest ih =>
    unfold optionList
    cases primary : o.primaryFlag? with
    | none => simp [Issue.IsTidy, primary]
    | some flag =>
      have details : ErrorsAre Issue.IsTidy (optionDetails d flag o) := by
        simp only [optionDetails, errorsAre_append, errorsAre_guarded, errorsAre_warning, errorsAre_concat,
          List.forall_mem_map, implies_true, and_self]
      simp only [errorsAre_append, flags_isTidy, details, ih, true_and, List.forall_mem_cons, primary, Option.isSome_some]

theorem lengthIssue?_isTidy {field value : String} {min max : Nat} (other : field ≠ "parameter name") {issue : Issue}
    (found : lengthIssue? field value min max = some issue) : issue.IsTidy := by
  unfold lengthIssue? at found
  split at found
  · exact Option.some.inj found ▸ other
  · split at found
    · exact Option.some.inj found ▸ trivial
    · split at found
      · exact Option.some.inj found ▸ trivial
      · exact nomatch found

theorem categoryIssue?_isTidy {d : Definition} {context : CreationContext} {issue : Issue}
    (found : categoryIssue? d context = some issue) : issue.IsTidy := by
  have missing : (Issue.missingField "category").IsTidy := by simp [Issue.IsTidy]
  unfold categoryIssue? at found
  generalize Text.trim (d.category?.getD "") = category at found
  dsimp only at found
  split at found
  · exact Option.some.inj found ▸ missing
  · split at found
    · exact Option.some.inj found ▸ trivial
    · split at found
      · exact nomatch found
      · split at found
        · exact Option.some.inj found ▸ trivial
        · split at found
          · exact Option.some.inj found ▸ trivial
          · exact nomatch found

theorem ofIssue?_errorsAre {p : Issue → Prop} {issue? : Option Issue} {field : String}
    (each : ∀ issue, issue? = some issue → p issue) : ErrorsAre p (ofIssue? issue? field) := by
  cases issue? with
  | none => exact errorsAre_empty
  | some issue => exact errorsAre_error.2 (each issue rfl)

theorem name_isTidy (d : Definition) : ErrorsAre Issue.IsTidy (name d) := by
  unfold name
  refine ofIssue?_errorsAre fun issue found => ?_
  rcases Option.or_eq_some_iff.1 found with long | ⟨_, characters⟩
  · exact lengthIssue?_isTidy (by decide) long
  · split at characters
    · exact nomatch characters
    · exact Option.some.inj characters ▸ trivial

/-- In whatever context a definition is checked, its tags, parameters and options alone decide whether something is
reported that normalizing takes away. -/
theorem errorsAre_isTidy_iff (d : Definition) (context : CreationContext) :
    ErrorsAre Issue.IsTidy (d.check context) ↔
      (d.tags.map Text.lowercase).Nodup ∧ (∀ p ∈ d.parameters, p.name ≠ "") ∧
        ∀ o ∈ d.options, o.primaryFlag?.isSome = true := by
  have limit (field : String) (count max : Nat) : ErrorsAre Issue.IsTidy (tooMany field count max) := by
    simp [tooMany, Issue.IsTidy]
  have description : ErrorsAre Issue.IsTidy (description d) :=
    ofIssue?_errorsAre fun _ => lengthIssue?_isTidy (by decide)
  have command : ErrorsAre Issue.IsTidy (command d) := ofIssue?_errorsAre fun _ => lengthIssue?_isTidy (by decide)
  have category : ErrorsAre Issue.IsTidy (ofIssue? (categoryIssue? d context) "category") :=
    ofIssue?_errorsAre fun _ => categoryIssue?_isTidy
  have placeholders : ErrorsAre Issue.IsTidy (placeholders d) := by
    simp [Check.placeholders, inCommand, adviseCommand, Issue.IsTidy]
  have duplicates : ErrorsAre Issue.IsTidy (duplicates d context) := by simp [Check.duplicates]
  simp only [Definition.check, tags, parameters, declaredOptions, errorsAre_append, name_isTidy, description, command,
    category, placeholders, duplicates, limit, tagList_errorsAre_isTidy_iff, parameterList_errorsAre_isTidy_iff,
    optionList_errorsAre_isTidy_iff, List.not_mem_nil, not_false_eq_true, implies_true, true_and, and_true, and_assoc]

end Check

namespace Definition

/-- The tags of a normalized definition differ whatever the case they are read in. -/
theorem nodup_tags_normalized (d : Definition) : (d.normalized.tags.map Text.lowercase).Nodup := by
  have lower : ∀ tag ∈ d.normalized.tags, Text.lowercase tag = tag := by
    intro tag member
    rw [tags_normalized, Text.mem_distinct_iff, List.mem_filter] at member
    obtain ⟨given, _, rfl⟩ := List.mem_map.1 member.1
    exact Text.lowercase_lowercase _
  have same : d.normalized.tags.map Text.lowercase = d.normalized.tags :=
    (List.map_congr_left lower).trans (List.map_id _)
  rw [same, tags_normalized]
  exact Text.nodup_distinct _

theorem name_ne_of_mem_parameters_normalized {d : Definition} {p : Parameter} (member : p ∈ d.normalized.parameters) :
    p.name ≠ "" := by
  obtain ⟨given, _, kept⟩ := List.mem_filterMap.1 member
  obtain ⟨name, trimmed, rfl⟩ := Option.map_eq_some_iff.1 kept
  exact (Text.trimmed?_eq_some_iff.1 trimmed).2

theorem primaryFlag?_of_mem_options_normalized {d : Definition} {o : CommandOption} (member : o ∈ d.normalized.options) :
    o.primaryFlag?.isSome = true := by
  obtain ⟨given, _, kept⟩ := List.mem_filterMap.1 member
  unfold CommandOption.normalized? at kept
  dsimp only at kept
  split at kept
  · rename_i flagged
    cases kept
    exact flagged
  · contradiction

/-- Normalizing makes a normal form. A normalized definition stays as it is when it is normalized again, and no check of
it reports a tag that stands twice, an option without a flag or a parameter without a name, whatever else is known. -/
theorem normal_form_is_tidy (d : Definition) :
    d.normalized.normalized = d.normalized ∧
      ∀ context, ∀ diagnostic ∈ (d.normalized.check context).errors,
        (∀ tag, diagnostic.issue ≠ .duplicateTag tag) ∧ diagnostic.issue ≠ .missingFlag ∧
          diagnostic.issue ≠ .missingField "parameter name" := by
  refine ⟨d.normalized_normalized, fun context diagnostic reported => ?_⟩
  have tidy := (Check.errorsAre_isTidy_iff d.normalized context).2
    ⟨d.nodup_tags_normalized, fun _ => name_ne_of_mem_parameters_normalized, fun _ => primaryFlag?_of_mem_options_normalized⟩
    diagnostic reported
  refine ⟨fun tag same => ?_, fun same => ?_, fun same => ?_⟩ <;> rw [same] at tidy
  · exact tidy
  · exact tidy
  · exact tidy rfl

end Definition

end ShellTemplate
