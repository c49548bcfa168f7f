import ShellTemplate.Proofs.DryRun
import ShellTemplate.Proofs.PlaceholderForms
import ShellTemplate.Proofs.SessionIndependence

namespace ShellTemplate

/-- The issue tells that the value of this name is missing: by the name, by an option whose value it is, or by a
placeholder that is left. -/
def Issue.tellsMissing (d : Definition) (name : String) : Issue → Bool
  | .missingRequiredValue other | .undefinedPlaceholder other => other == name
  | .missingOptionValue flag =>
    d.options.any fun o => o.isSpelled flag && Build.valueName o (d.optionParameter? o) == name
  | .unsubstitutedPlaceholder run => (Placeholder.ofText? run).any (·.name == name)
  | _ => false

/-- The issue tells why a build fails: in the words of the build, or as the value that is missing. -/
def Issue.tellsOf (d : Definition) (e : BuildError) (issue : Issue) : Bool :=
  issue == .failure e.message ||
    match e with
    | .missingRequiredValue name => issue.tellsMissing d name
    | _ => false

namespace Report

theorem append_assoc (a b c : Report) : a ++ b ++ c = a ++ (b ++ c) := by
  change Report.mk _ _ _ = Report.mk _ _ _
  simp only [errors_append, warnings_append, suggestions_append, List.append_assoc]

theorem hasError_of_mem {r : Report} {p : Issue → Bool} {diagnostic : Diagnostic} (member : diagnostic ∈ r.errors)
    (holds : p diagnostic.issue = true) : r.hasError p = true :=
  List.any_eq_true.2 ⟨diagnostic, member, holds⟩

theorem hasError_mono {a b : Report} {p : Issue → Bool} (inside : a.errors ⊆ b.errors) (holds : a.hasError p = true) :
    b.hasError p = true := by
  obtain ⟨diagnostic, member, tells⟩ := List.any_eq_true.1 holds
  exact hasError_of_mem (inside member) tells

end Report

namespace Check

open Report

/-- The placeholders that a build leaves as they are, except those whose values were reported to be missing. -/
def unsubstituted (d : Definition) (s : Selection) (found : Report) : Report :=
  .concat ((unreported d s found).map fun run => inCommand (.unsubstitutedPlaceholder run))

/-- What is found in the command that is built when no value is enforced, if one is to be run. -/
def rereading (d : Definition) (s : Selection) : Report :=
  match s.mode, d.build s.relaxed with
  | .executable, .ok (some built) => (Structure.ofCommand built).check false true
  | _, _ => {}

section

variable {d : Definition} {s : Selection}

theorem conclude_eq (references : Build.checkReferences d s = .ok ()) (found : Report) :
    conclude d s found =
      .ok (found ++ .guarded (s.mode == .executable) (unsubstituted d s found) ++ rereading d s) := by
  unfold conclude rereading
  cases mode : s.mode with
  | template | validation => exact congrArg Except.ok ((append_empty _).trans (append_empty _)).symm
  | executable =>
    obtain ⟨ps, pieces⟩ := Build.exists_pieces_relaxed d s
    have built : d.build s.relaxed = .ok (some (Piece.join ps)) :=
      (Build.build_eq_ok_iff (s := s.relaxed) mode).2 ⟨references, ps, pieces, rfl⟩
    rw [built, (executable_eq_ok_iff mode).2 ⟨references, ps, pieces, rfl⟩]
    exact congrArg Except.ok (append_assoc _ _ _).symm

theorem tellsMissing_of_reportedName? {issue : Issue} {name : String} (reported : reportedName? d issue = some name) :
    issue.tellsMissing d name = true := by
  cases issue with
  | missingRequiredValue other | undefinedPlaceholder other => exact beq_iff_eq.2 (Option.some.inj reported)
  | missingOptionValue flag =>
    obtain ⟨o, found, named⟩ := Option.map_eq_some_iff.1 reported
    have spelled := (List.find?_eq_some_iff_append.1 found).1
    exact List.any_eq_true.2 ⟨o, List.mem_of_find?_eq_some found, Bool.and_eq_true_iff.2 ⟨spelled, beq_iff_eq.2 named⟩⟩
  | _ => cases reported

/-- A placeholder of the template that lacks its value is left, or something that was found tells that the value is
missing. -/
theorem tells_of_isUnfilled {p : Placeholder} (member : p ∈ Placeholder.scan d.command)
    (unfilled : Build.isUnfilled d s p = true) (found : Report) :
    (found ++ unsubstituted d s found).hasError (Issue.tellsMissing d p.name) = true := by
  have whole := Placeholder.ofText?_written (Placeholder.exists_slice_of_mem_scanFrom member).1
  have left : String.ofList (Placeholder.written p.name p.kind) ∈ leftovers d s := by
    simp only [leftovers, Text.mem_distinct_iff, List.mem_append]
    exact Or.inl (Or.inl (List.mem_map.2 ⟨p, List.mem_filter.2 ⟨member, unfilled⟩, rfl⟩))
  by_cases kept : String.ofList (Placeholder.written p.name p.kind) ∈ unreported d s found
  · refine hasError_of_mem (List.mem_append_right _ (mem_errors_concat_map.2 ⟨_, kept, List.mem_singleton_self _⟩)) ?_
    change (Placeholder.ofText? _).any _ = true
    rw [whole]
    exact beq_self_eq_true p.name
  · rw [unreported, List.mem_filter, not_and] at kept
    have reported := kept left
    simp only [Bool.not_eq_true', Bool.not_eq_false, Option.any_eq_true, List.contains_iff_mem, List.mem_filterMap] at reported
    obtain ⟨q, read, diagnostic, member', named⟩ := reported
    rw [whole] at read
    cases read
    exact hasError_of_mem (List.mem_append_left _ member') (tellsMissing_of_reportedName? named)

/-- A parameter that the template never mentions and that lacks its value is reported. -/
theorem tells_of_isUnfilledParameter (enforced : enforcesValues s = true) {p : Parameter}
    (member : p ∈ Build.unmentioned d) (unfilled : Build.isUnfilledParameter s p = true) (c : Classifier) :
    ((selectedParameters d s d.parameters).run c).1.hasError (Issue.tellsMissing d p.name) = true := by
  obtain ⟨declared, unbound, unresolved, needed⟩ := needsValue_of_isUnfilledParameter member unfilled
  obtain ⟨c', inside⟩ := exists_selectedParameter (d := d) (s := s) declared c
  have about : (Issue.missingRequiredValue p.name).tellsMissing d p.name = true := beq_self_eq_true p.name
  refine hasError_of_mem (inside (?_ : Diagnostic.ofIssue .error (.missingRequiredValue p.name) (some p.name) ∈ _)) about
  unfold selectedParameter
  simp only [unbound, StateT.run_bind, unresolved]
  exact mem_errors_guarded.2 ⟨by simp [needed, enforced], List.mem_singleton_self _⟩

/-- A placeholder of a token that lacks its value and that the template as a whole does not hold. -/
def isUnseen (d : Definition) (s : Selection) (p : Placeholder) : Bool :=
  Build.isUnfilled d s p && !((Placeholder.scan d.command).map Placeholder.label).contains p.label

/-- Where the tokens of the template hold its placeholders, none is unseen. -/
theorem isUnseen_of_isAligned (aligned : d.IsAligned) {p : Placeholder} (member : p ∈ d.occurrences) :
    isUnseen d s p = false := by
  obtain ⟨t, token, found⟩ := List.mem_flatMap.1 member
  have shown := List.mem_map.2 ((Build.exists_label_iff aligned p.label).1 ⟨t, token, p, found, rfl⟩)
  rw [isUnseen, List.contains_iff_mem.2 shown, Bool.not_true, Bool.and_false]

/-- What a build lacks is told by the check of the selection, unless a token alone shows the place that lacks it. -/
theorem tells_or_unseen_of_lacks (executable : s.mode = .executable) (references : Build.checkReferences d s = .ok ())
    {name : String} (lacks : Build.Lacks d s name) (c : Classifier) :
    ∃ r, ((d.checkBuildWith s).run.run c).1 = .ok r ∧
      (r.hasError (Issue.tellsMissing d name) = true ∨ ∃ p ∈ d.occurrences, isUnseen d s p = true ∧ p.name = name) := by
  rw [Definition.run_checkBuildWith, references]
  refine ⟨_, conclude_eq references _, ?_⟩
  rw [executable]
  obtain ⟨enforced, lacking⟩ := lacks
  have enforces : enforcesValues s = true := by
    rw [enforcesValues, enforced, executable]
    rfl
  rcases lacking with ⟨t, placed, p, member, unfilled, rfl⟩ | ⟨o, member, unfilled, rfl⟩ | ⟨p, member, unfilled, rfl⟩
  · -- The check reads the placeholders of the whole template, the build those of its tokens.
    by_cases shown : p.label ∈ (Placeholder.scan d.command).map Placeholder.label
    · obtain ⟨q, inside, same⟩ := List.mem_map.1 shown
      rw [← Build.isUnfilled_of_label same] at unfilled
      have told := tells_of_isUnfilled inside unfilled (findings d s ((selectedParameters d s d.parameters).run c).1)
      rw [show q.name = p.name from congrArg Prod.fst same] at told
      exact Or.inl (hasError_mono (List.subset_append_left _ _) told)
    · refine Or.inr ⟨p, List.mem_flatMap.2 ⟨t, placed, member⟩, ?_, rfl⟩
      simpa [isUnseen, unfilled] using shown
  · obtain ⟨spelling, spelled, told⟩ := missingOptionValue_mem_errors enforces unfilled
    have inside := mem_errors_concat_map.2 ⟨o, member, told⟩
    have about : (Issue.missingOptionValue spelling).tellsMissing d (Build.valueName o (d.optionParameter? o)) = true :=
      List.any_eq_true.2 ⟨o, member, Bool.and_eq_true_iff.2 ⟨spelled, beq_self_eq_true _⟩⟩
    exact Or.inl (hasError_of_mem (List.mem_append_left _ (List.mem_append_left _ (List.mem_append_right _ inside))) about)
  · refine Or.inl (hasError_mono (fun diagnostic found => ?_) (tells_of_isUnfilledParameter enforces member unfilled c))
    exact List.mem_append_left _ (List.mem_append_left _ (List.mem_append_left _ (List.mem_append_right _ found)))

/-- A check that can be done finds nothing that is worded like a build that failed. -/
theorem ne_failure_of_checked {r : Report} {c : Classifier} (checked : ((d.checkBuildWith s).run.run c).1 = .ok r)
    (message : String) : ErrorsAre (· ≠ .failure message) r := by
  rw [Definition.run_checkBuildWith] at checked
  cases references : Build.checkReferences d s with
  | error e =>
    rw [references] at checked
    cases checked
  | ok _ =>
    rw [references] at checked
    cases (conclude_eq references _).symm.trans checked
    refine errorsAre_append.2 ⟨errorsAre_append.2 ⟨?_, ?_⟩, ?_⟩
    · refine (findings_concern d s c).imp fun issue concerns => ?_
      rintro rfl
      exact concerns
    · exact errorsAre_guarded.2 fun _ => errorsAre_concat.2 (List.forall_mem_map.2 fun _ _ => errorsAre_error.2 nofun)
    · unfold rereading
      split
      · refine (structure_concerns _ false true).imp fun issue concerns => ?_
        rintro rfl
        exact concerns
      · exact errorsAre_empty

/-- In what a check finds, it is told as a value that is missing why a build lacks one. -/
theorem hasError_tellsOf {r : Report} {c : Classifier} (checked : ((d.checkBuildWith s).run.run c).1 = .ok r)
    (name : String) :
    r.hasError (Issue.tellsOf d (.missingRequiredValue name)) = r.hasError (Issue.tellsMissing d name) := by
  rw [Bool.eq_iff_iff, hasError, hasError, List.any_eq_true, List.any_eq_true]
  refine exists_congr fun diagnostic => and_congr_right fun member => ?_
  rw [Issue.tellsOf, beq_false_of_ne (ne_failure_of_checked checked _ diagnostic member), Bool.false_or]

end

end Check

end ShellTemplate
