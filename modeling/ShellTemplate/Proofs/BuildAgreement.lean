import ShellTemplate.Proofs.FilledBuild
import ShellTemplate.Proofs.ReportedErrors

namespace ShellTemplate

namespace Check

open Report

/-- What a check of a build reports before it looks at what is built. -/
def before (d : Definition) (s : Selection) : Report :=
  .concat ((Placeholder.names d.command).map fun name =>
      .guarded (d.findParameter? name).isNone (inCommand (.undefinedPlaceholder name))) ++
    ((selectedParameters d s d.parameters).run .standard).1 ++ .concat (d.options.map (selectedOption d s))

theorem before_concerns (d : Definition) (s : Selection) : ErrorsAre Issue.ConcernsSelection (before d s) :=
  findings_concern d s .standard

theorem before_other (d : Definition) (s : Selection) : ErrorsAre Issue.IsOther (before d s) :=
  (before_concerns d s).imp fun _ => Issue.ConcernsSelection.isOther

/-- The placeholders that a build leaves as they are, except those whose values were reported to be
missing. -/
def unreported (d : Definition) (s : Selection) (found : Report) : List String :=
  let reported := found.errors.filterMap fun diagnostic => reportedName? d diagnostic.issue
  (leftovers d s).filter fun run => !(Placeholder.ofText? run).any fun p => reported.contains p.name

theorem unreported_of_errors_eq_nil {d : Definition} {s : Selection} {found : Report} (none : found.errors = []) :
    unreported d s found = leftovers d s := by
  unfold unreported
  rw [none]
  exact List.filter_eq_self.2 fun run _ => by cases Placeholder.ofText? run <;> rfl

theorem unreported_of_leftovers_eq_nil {d : Definition} {s : Selection} {found : Report}
    (none : leftovers d s = []) : unreported d s found = [] := by
  unfold unreported
  rw [none]
  rfl

end Check

variable {d : Definition} {s : Selection}

theorem executable_eq_ok_iff (executable : s.mode = .executable) {found r : Report} :
    Check.executable d s found = .ok r ↔
      Build.checkReferences d s = .ok () ∧ ∃ ps, Build.pieces d s.relaxed = .ok ps ∧
        r = .concat ((Check.unreported d s found).map fun run =>
            Check.inCommand (.unsubstitutedPlaceholder run)) ++
          (Structure.ofCommand (Piece.join ps)).check false true := by
  have alike : s.relaxed.mode = .executable := executable
  unfold Check.executable
  rw [Build.bind_eq_ok_iff]
  constructor
  · rintro ⟨built?, made, rest⟩
    obtain ⟨references, ps, pieces, rfl⟩ := (Build.build_eq_ok_iff alike).1 made
    exact ⟨references, ps, pieces, (Except.ok.inj rest).symm⟩
  · rintro ⟨references, ps, pieces, rfl⟩
    exact ⟨_, (Build.build_eq_ok_iff alike).2 ⟨references, ps, pieces, rfl⟩, rfl⟩

theorem checkBuild_eq_ok_iff (executable : s.mode = .executable) {r : Report} :
    d.checkBuild s = .ok r ↔
      Build.checkReferences d s = .ok () ∧
        ∃ made, Check.executable d s (Check.before d s) = .ok made ∧ r = Check.before d s ++ made := by
  unfold Definition.checkBuild Definition.checkBuildWith
  rw [executable]
  cases Build.checkReferences d s with
  | error e => exact ⟨nofun, nofun⟩
  | ok _ =>
    let last : ExceptT BuildError (StateM Classifier) Report := do
      let made ← liftM (Check.executable d s (Check.before d s))
      return Check.before d s ++ made
    change (last.run.run ((Check.selectedParameters d s d.parameters).run .standard).2).1 = _ ↔ _
    unfold last
    cases Check.executable d s (Check.before d s) with
    | error e => exact ⟨nofun, nofun⟩
    | ok made =>
      constructor
      · intro same
        exact ⟨rfl, made, rfl, (Except.ok.inj same).symm⟩
      · rintro ⟨_, _, ⟨⟩, rfl⟩
        rfl

/-- Checking a selection and building with it agree, as long as the tokens of the template hold its
placeholders: what is valid is built, into a command line without errors, and what is built is not
reported to have placeholders left. -/
theorem checkBuild_agrees_with_build (executable : s.mode = .executable) (enforced : s.validateRequired = true)
    (aligned : d.IsAligned) :
    (∀ r, d.checkBuild s = .ok r → r.isValid = true →
      ∃ built, d.build s = .ok (some built) ∧
        ∀ security precedence, ((Structure.ofCommand built).check security precedence).isValid = true) ∧
    ∀ built?, d.build s = .ok built? →
      ∃ r, d.checkBuild s = .ok r ∧
        ∀ diagnostic ∈ r.errors, ∀ run, diagnostic.issue ≠ .unsubstitutedPlaceholder run := by
  have agrees := Build.pieces_agrees executable enforced aligned
  constructor
  · intro r checked valid
    obtain ⟨references, made, done, rfl⟩ := (checkBuild_eq_ok_iff executable).1 checked
    obtain ⟨_, ps, lenient, rfl⟩ := (executable_eq_ok_iff executable).1 done
    simp only [Report.isValid_iff, Report.errors_append, List.append_eq_nil_iff] at valid ⊢
    obtain ⟨clean, unsubstituted, structured⟩ := valid
    have filled : Check.leftovers d s = [] := by
      rw [Check.unreported_of_errors_eq_nil clean, Report.errors_eq_nil_iff, Report.errorsAre_concat] at unsubstituted
      refine List.eq_nil_iff_forall_not_mem.2 fun run member => ?_
      exact Report.errorsAre_error.1 (unsubstituted _ (List.mem_map_of_mem member))
    obtain ⟨strict, pieces⟩ := agrees.succeeds_iff.2 filled
    cases lenient.symm.trans (agrees.kept strict pieces)
    have built := (Build.build_eq_ok_iff executable).2 ⟨references, ps, pieces, rfl⟩
    refine ⟨Piece.join ps, built, fun security precedence => ?_⟩
    rw [Report.errors_eq_nil_iff, Check.structure_errorsAre] at structured ⊢
    exact structured
  · intro built? made
    obtain ⟨references, ps, pieces, rfl⟩ := (Build.build_eq_ok_iff executable).1 made
    have filled : Check.leftovers d s = [] := agrees.succeeds_iff.1 ⟨ps, pieces⟩
    refine ⟨_, (checkBuild_eq_ok_iff executable).2 ⟨references, _, (executable_eq_ok_iff executable).2
      ⟨references, ps, agrees.kept ps pieces, rfl⟩, rfl⟩, ?_⟩
    rw [Check.unreported_of_leftovers_eq_nil filled]
    have structured := (Check.structure_concerns (Structure.ofCommand (Piece.join ps)) false true).imp fun _ =>
      Issue.ConcernsCommand.isOther
    exact Report.errorsAre_append.2 ⟨Check.before_other d s,
      Report.errorsAre_append.2 ⟨Report.errorsAre_empty, structured⟩⟩

/-- A value with a blank for the one placeholder of a template is valid and is built. -/
theorem checkBuild_agrees_with_build_of_blank_value :
    let d : Definition := { name := "print", command := "echo \x7b\x7bx\x7d\x7d", parameters := [{ name := "x" }] }
    let s : Selection := { mode := .executable, parameterValues := SortedList.empty.insert ("x", "a b") }
    d.IsAligned ∧
      (∃ built, d.build s = .ok (some built) ∧
        ∀ security precedence, ((Structure.ofCommand built).check security precedence).isValid = true) ∧
      ∃ r, d.checkBuild s = .ok r ∧
        ∀ diagnostic ∈ r.errors, ∀ run, diagnostic.issue ≠ .unsubstitutedPlaceholder run := by
  intro d s
  have aligned : d.IsAligned := by unfold Definition.IsAligned; decide +kernel
  have agrees := checkBuild_agrees_with_build (show s.mode = .executable from rfl) rfl aligned
  have valid : ((d.checkBuild s).toOption.map Report.isValid) = some true := by decide +kernel
  obtain ⟨r, checked, isValid⟩ := Option.map_eq_some_iff.1 valid
  obtain ⟨built, made, clean⟩ := agrees.1 r (Build.eq_ok_of_toOption checked) isValid
  exact ⟨aligned, ⟨built, made, clean⟩, agrees.2 _ made⟩

end ShellTemplate
