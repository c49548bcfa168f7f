import ShellTemplate.Proofs.DryRun
import ShellTemplate.Proofs.SortedInsertion
import ShellTemplate.Suggestion

namespace ShellTemplate

/-- The definition declares all that the selection names. -/
structure Definition.Declares (d : Definition) (s : Selection) : Prop where
  options : ∀ f ∈ s.options.toList ++ s.optionValues.toList.map Prod.fst, (d.findOption? f).isSome = true
  parameters : ∀ name ∈ s.parameterValues.toList.map Prod.fst, (d.findParameter? name).isSome = true
  operators : ∀ segment ∈ s.trailing, (Operator.ofSymbol? segment.symbol).isSome = true

/-- The target names an option that the flag spells. -/
def Definition.selects (d : Definition) (flag target : String) : Bool :=
  (d.findOption? target).any (·.isSpelled flag)

namespace Selection

variable {d : Definition} {s : Selection} {flag : String}

theorem isSelected_addOption (s : Selection) (flag f : String) :
    (s.addOption flag).isSelected f = (f == flag || s.isSelected f) := by
  have member := @mem_insertSorted_iff String String _ _ _ id flag f s.options.toList fun _ _ same => same
  rw [Bool.eq_iff_iff, Bool.or_eq_true, beq_iff_eq]
  simpa [isSelected, NameSet.contains, addOption, SortedList.insert] using member

/-- A flag selects every option that it spells, and leaves those that were selected. -/
theorem isSome_selectedSpelling?_addOption (s : Selection) (flag : String) (o : CommandOption) :
    ((s.addOption flag).selectedSpelling? o).isSome = (o.isSpelled flag || (s.selectedSpelling? o).isSome) := by
  rw [Bool.eq_iff_iff]
  simp only [Bool.or_eq_true, selectedSpelling?, List.find?_isSome, isSelected_addOption, CommandOption.isSpelled,
    List.contains_iff_mem, beq_iff_eq]
  constructor
  · rintro ⟨f, spelled, rfl | selected⟩
    · exact Or.inl spelled
    · exact Or.inr ⟨f, spelled, selected⟩
  · rintro (spelled | ⟨f, spelled, selected⟩)
    · exact ⟨flag, spelled, Or.inl rfl⟩
    · exact ⟨f, spelled, Or.inr selected⟩

/-- An option that is selected under another spelling than the new one was selected under it before. -/
theorem selectedSpelling?_of_addOption {o : CommandOption} {spelling : String}
    (selected : (s.addOption flag).selectedSpelling? o = some spelling) (other : spelling ≠ flag) :
    s.selectedSpelling? o = some spelling := by
  obtain ⟨isSelected, before, after, spellings, earlier⟩ := List.find?_eq_some_iff_append.1 selected
  simp only [isSelected_addOption, Bool.or_eq_true, beq_iff_eq, other, false_or, Bool.not_eq_true',
    Bool.or_eq_false_iff] at isSelected earlier
  exact List.find?_eq_some_iff_append.2 ⟨isSelected, before, after, spellings, fun f member => by simp [earlier f member]⟩

theorem hasOption_addOption (declared : (d.findOption? flag).isSome = true) (target : String) :
    (s.addOption flag).hasOption d target = (d.selects flag target || s.hasOption d target) := by
  unfold hasOption Definition.selects
  cases found : d.findOption? target with
  | some o => simpa using isSome_selectedSpelling?_addOption s flag o
  | none =>
    have other : target ≠ flag := by
      rintro rfl
      rw [found] at declared
      contradiction
    exact (isSelected_addOption s flag target).trans (by rw [beq_false_of_ne other]; rfl)

end Selection

namespace Build

variable {d : Definition} {s : Selection} {flag : String}

theorem checkReferences_eq_ok_iff : checkReferences d s = .ok () ↔ d.Declares s := by
  have passes {α β : Type} {known? : α → Option β} {xs : List α} :
      (xs.find? fun x => (known? x).isNone) = none ↔ ∀ x ∈ xs, (known? x).isSome = true := by
    simp only [List.find?_eq_none, Bool.not_eq_true, Option.isNone_eq_false_iff]
  unfold checkReferences
  split
  · rename_i unknown
    exact iff_of_false nofun fun declares => by simp [passes.2 declares.options] at unknown
  · rename_i options
    split
    · rename_i unknown
      exact iff_of_false nofun fun declares => by simp [passes.2 declares.parameters] at unknown
    · rename_i parameters
      split
      · rename_i unknown
        exact iff_of_false nofun fun declares => by simp [passes.2 declares.operators] at unknown
      · rename_i operators
        exact iff_of_true rfl ⟨passes.1 options, passes.1 parameters, passes.1 operators⟩

theorem checkReferences_addOption (references : checkReferences d s = .ok ())
    (declared : (d.findOption? flag).isSome = true) : checkReferences d (s.addOption flag) = .ok () := by
  have declares := checkReferences_eq_ok_iff.1 references
  refine checkReferences_eq_ok_iff.2 { declares with options := fun f member => ?_ }
  rcases List.mem_append.1 member with selected | valued
  · rcases mem_insertSorted selected with rfl | before
    · exact declared
    · exact declares.options f (List.mem_append_left _ before)
  · exact declares.options f (List.mem_append_right _ valued)

/-- A selection that names only what is declared is checked, in every mode. -/
theorem exists_checked (references : checkReferences d s = .ok ()) : ∃ r, d.checkBuild s = .ok r := by
  by_cases executable : s.mode = .executable
  · obtain ⟨ps, made⟩ := exists_pieces_relaxed d s
    exact ⟨_, (checkBuild_eq_ok_iff executable).2
      ⟨references, _, (executable_eq_ok_iff executable).2 ⟨references, ps, made, rfl⟩, rfl⟩⟩
  · unfold Definition.checkBuild Definition.checkBuildWith
    rw [beq_false_of_ne executable, references]
    exact ⟨_, rfl⟩

end Build

namespace Check

open Report

variable {d : Definition} {s : Selection} {spelling target : String} {diagnostic : Diagnostic}

def conflict (spelling target : String) : Diagnostic :=
  .ofIssue .error (.optionConflict spelling target) (some "options")

/-- An option that is selected under the spelling excludes a selected one. -/
def Excludes (d : Definition) (s : Selection) (spelling target : String) : Prop :=
  ∃ o ∈ d.options, s.selectedSpelling? o = some spelling ∧ target ∈ o.conflictsWith ∧ s.hasOption d target = true

section

variable (about : diagnostic.issue = .optionConflict spelling target)

include about

theorem not_mem_errors {p : Issue → Prop} {r : Report} (holds : ErrorsAre p r) (other : ¬p (.optionConflict spelling target)) :
    diagnostic ∉ r.errors :=
  fun member => other (about ▸ holds diagnostic member)

theorem mem_errors_selectedOption_iff (o : CommandOption) :
    diagnostic ∈ (selectedOption d s o).errors ↔ diagnostic = conflict spelling target ∧
      s.selectedSpelling? o = some spelling ∧ target ∈ o.conflictsWith ∧ s.hasOption d target = true := by
  unfold selectedOption
  cases selected : s.selectedSpelling? o with
  | none =>
    refine iff_of_false ?_ (by simp)
    refine @not_mem_errors _ _ _ about (· ≠ .optionConflict spelling target) _ ?_ (by simp)
    simp [inOptions]
  | some own =>
    have value : diagnostic ∉ (guarded o.hasValue (selectedValue d s o own)).errors :=
      not_mem_errors about (errorsAre_guarded.2 fun _ => selectedValue_concerns d s o own) id
    have needs : diagnostic ∉ (concat (o.dependsOn.map fun target =>
        guarded (!s.hasOption d target) (inOptions (.missingDependency own target)))).errors :=
      @not_mem_errors _ _ _ about (· ≠ .optionConflict spelling target) _ (by simp [inOptions]) (by simp)
    simp only [errors_append, List.mem_append, value, needs, false_or, or_false, mem_errors_concat_map, mem_errors_guarded]
    simp only [inOptions, error, List.mem_singleton]
    constructor
    · rintro ⟨other, excluded, chosen, rfl⟩
      cases about
      exact ⟨rfl, rfl, excluded, chosen⟩
    · rintro ⟨rfl, same, excluded, chosen⟩
      cases same
      exact ⟨target, excluded, chosen, rfl⟩

/-- A check reports the conflicts that the selected options declare, and no others. -/
theorem mem_errors_iff_excludes {r : Report} (checked : d.checkBuild s = .ok r) :
    diagnostic ∈ r.errors ↔ diagnostic = conflict spelling target ∧ Excludes d s spelling target := by
  obtain ⟨_, made, rfl, form⟩ := eq_append_of_checked checked
  have values := not_mem_errors about (selectedParameters_concerns d s d.parameters .standard) id
  have names : diagnostic ∉ (concat ((Placeholder.names d.command).map fun name =>
      guarded (d.findParameter? name).isNone (inCommand (.undefinedPlaceholder name)))).errors :=
    @not_mem_errors _ _ _ about (· ≠ .optionConflict spelling target) _ (by simp [inCommand]) (by simp)
  have rest := not_mem_errors about form (by simp [Issue.ConcernsCommand])
  simp only [before, errors_append, List.mem_append, names, values, rest, false_or, or_false, mem_errors_concat_map,
    mem_errors_selectedOption_iff about, Excludes]
  constructor
  · rintro ⟨o, declared, same, excludes⟩
    exact ⟨same, o, declared, excludes⟩
  · rintro ⟨same, o, declared, excludes⟩
    exact ⟨o, declared, same, excludes⟩

end

end Check

namespace Suggestions

open Check

variable {d : Definition} {s : Selection} {flag : String}

theorem mem_options_iff : flag ∈ (ofSelection d s).options.map (·.flag) ↔
    ∃ o ∈ d.options, isOffered d s o = true ∧ o.primaryFlag? = some flag := by
  simp only [ofSelection, List.mem_map, List.mem_mergeSort, List.mem_filterMap, optionSuggestion?]
  constructor
  · rintro ⟨suggestion, ⟨o, declared, offered⟩, rfl⟩
    split at offered
    · rename_i free
      obtain ⟨flag, primary, rfl⟩ := Option.map_eq_some_iff.1 offered
      exact ⟨o, declared, free, primary⟩
    · contradiction
  · rintro ⟨o, declared, free, primary⟩
    exact ⟨_, ⟨o, declared, by rw [if_pos free, primary]; rfl⟩, rfl⟩

/-- Whether a conflict is reported with the flag that is not reported without it. Either an option that the flag
selects is excluded by one that is selected then, or a conflict with a selected option is reported under the flag. -/
def clashes (d : Definition) (s : Selection) (flag : String) : Bool :=
  d.options.any fun o => o.conflictsWith.any fun target =>
    if s.hasOption d target then (s.addOption flag).selectedSpelling? o == some flag
    else d.selects flag target && (o.isSpelled flag || (s.selectedSpelling? o).isSome)

/-- Where no other option is spelled like the flag, it clashes if a selected option excludes it, or it itself. -/
theorem clashes_of_unshared {o : CommandOption} (free : isOffered d s o = true) (spelled : o.isSpelled flag = true)
    (unshared : ∀ p ∈ d.options, p.isSpelled flag = true → p = o) :
    clashes d s flag = d.options.any fun p => p.conflictsWith.any fun target =>
      d.findOption? target == some o && (p == o || (s.selectedSpelling? p).isSome) := by
  obtain ⟨unselected, compatible⟩ := Bool.and_eq_true_iff.1 free
  rw [Bool.not_eq_true'] at compatible
  have isOwn : ∀ p ∈ d.options, p.isSpelled flag = (p == o) := by
    intro p member
    rw [Bool.eq_iff_iff, beq_iff_eq]
    exact ⟨unshared p member, fun same => same ▸ spelled⟩
  have selects (target : String) : d.selects flag target = (d.findOption? target == some o) := by
    unfold Definition.selects
    cases found : d.findOption? target with
    | none => rfl
    | some q => exact isOwn q (List.mem_of_find?_eq_some found)
  rw [Bool.eq_iff_iff]
  simp only [clashes, List.any_eq_true]
  refine exists_congr fun p => and_congr_right fun member => exists_congr fun target => and_congr_right fun excluded => ?_
  split
  · rename_i known
    refine iff_of_false (fun stands => ?_) fun names => ?_
    · have own := unshared p member (List.contains_iff_mem.2 (List.mem_of_find?_eq_some (beq_iff_eq.1 stands)))
      rw [own] at excluded
      exact List.any_eq_false.1 compatible target excluded known
    · have found := beq_iff_eq.1 (Bool.and_eq_true_iff.1 names).1
      simp [Selection.hasOption, found, Option.isNone_iff_eq_none.1 unselected] at known
  · rw [selects, isOwn p member]

theorem excludes_of_addOption_iff (declared : (d.findOption? flag).isSome = true) (unselected : s.isSelected flag = false) :
    (∀ spelling target, Excludes d (s.addOption flag) spelling target → Excludes d s spelling target) ↔
      clashes d s flag = false := by
  have chosen := Selection.hasOption_addOption (s := s) declared
  simp only [clashes, List.any_eq_false, Bool.not_eq_true]
  constructor
  · intro kept o member target excluded
    split
    · rename_i known
      refine beq_false_of_ne fun selected => ?_
      obtain ⟨p, _, before, _⟩ := kept flag target ⟨o, member, selected, excluded, by rw [chosen, known, Bool.or_true]⟩
      have isSelected := List.find?_some before
      rw [unselected] at isSelected
      contradiction
    · rename_i unknown
      refine Bool.eq_false_iff.2 fun brought => ?_
      rw [← Selection.isSome_selectedSpelling?_addOption] at brought
      obtain ⟨selects, selected⟩ := Bool.and_eq_true_iff.1 brought
      obtain ⟨spelling, spelled⟩ := Option.isSome_iff_exists.1 selected
      obtain ⟨_, _, _, _, known⟩ :=
        kept spelling target ⟨o, member, spelled, excluded, by rw [chosen, selects, Bool.true_or]⟩
      exact unknown known
  · rintro free spelling target ⟨o, member, selected, excluded, known⟩
    have apart := free o member target excluded
    split at apart
    · rename_i before
      have other : spelling ≠ flag := by
        rintro rfl
        rw [selected] at apart
        exact absurd apart (by simp)
      exact ⟨o, member, Selection.selectedSpelling?_of_addOption selected other, excluded, before⟩
    · rename_i unknown
      rw [chosen, Bool.eq_false_iff.2 unknown, Bool.or_false] at known
      rw [known, ← Selection.isSome_selectedSpelling?_addOption, selected] at apart
      contradiction

/-- With a flag of an option that can be offered, a check reports no new conflict exactly if the flag does not clash. -/
theorem compatible_iff {o : CommandOption} (references : Build.checkReferences d s = .ok ()) (member : o ∈ d.options)
    (free : isOffered d s o = true) (spelled : o.isSpelled flag = true) :
    ∃ r r', d.checkBuild s = .ok r ∧ d.checkBuild (s.addOption flag) = .ok r' ∧
      ((∀ diagnostic ∈ r'.errors, ∀ spelling target, diagnostic.issue = .optionConflict spelling target →
          diagnostic ∈ r.errors) ↔ clashes d s flag = false) := by
  have declared : (d.findOption? flag).isSome = true := List.find?_isSome.2 ⟨o, member, spelled⟩
  have unselected : s.isSelected flag = false := by
    have none := Option.isNone_iff_eq_none.1 (Bool.and_eq_true_iff.1 free).1
    exact Bool.eq_false_iff.2 (List.find?_eq_none.1 none flag (List.contains_iff_mem.1 spelled))
  obtain ⟨r, checked⟩ := Build.exists_checked references
  obtain ⟨r', checked'⟩ := Build.exists_checked (Build.checkReferences_addOption references declared)
  refine ⟨r, r', checked, checked', ?_⟩
  rw [← excludes_of_addOption_iff declared unselected]
  constructor
  · intro kept spelling target excludes
    have about : (conflict spelling target).issue = .optionConflict spelling target := rfl
    have reported := (mem_errors_iff_excludes about checked').2 ⟨rfl, excludes⟩
    exact ((mem_errors_iff_excludes about checked).1 (kept _ reported spelling target about)).2
  · intro kept diagnostic reported spelling target about
    obtain ⟨same, excludes⟩ := (mem_errors_iff_excludes about checked').1 reported
    exact (mem_errors_iff_excludes about checked).2 ⟨same, kept spelling target excludes⟩

/-- Where no other option is spelled like the flag, a check reports no new conflict with it exactly if neither the option
itself nor a selected one excludes the option. -/
theorem compatible_iff_of_unshared {o : CommandOption} (references : Build.checkReferences d s = .ok ())
    (member : o ∈ d.options) (free : isOffered d s o = true) (spelled : o.isSpelled flag = true)
    (unshared : ∀ p ∈ d.options, p.isSpelled flag = true → p = o) :
    ∃ r r', d.checkBuild s = .ok r ∧ d.checkBuild (s.addOption flag) = .ok r' ∧
      ((∀ diagnostic ∈ r'.errors, ∀ spelling target, diagnostic.issue = .optionConflict spelling target →
          diagnostic ∈ r.errors) ↔
        ∀ p ∈ d.options, ∀ target ∈ p.conflictsWith, d.findOption? target = some o →
          p ≠ o ∧ s.selectedSpelling? p = none) := by
  obtain ⟨r, r', checked, checked', kept⟩ := compatible_iff references member free spelled
  refine ⟨r, r', checked, checked', kept.trans ?_⟩
  simp [clashes_of_unshared free spelled unshared]

/-- With an offered flag a check reports no new conflict, exactly as long as the flag does not clash. -/
theorem offered_compatible_iff (references : Build.checkReferences d s = .ok ())
    (offered : flag ∈ (ofSelection d s).options.map (·.flag)) :
    ∃ r r', d.checkBuild s = .ok r ∧ d.checkBuild (s.addOption flag) = .ok r' ∧
      ((∀ diagnostic ∈ r'.errors, ∀ spelling target, diagnostic.issue = .optionConflict spelling target →
          diagnostic ∈ r.errors) ↔ clashes d s flag = false) := by
  obtain ⟨o, member, free, primary⟩ := mem_options_iff.1 offered
  exact compatible_iff references member free (List.contains_iff_mem.2 (List.mem_of_head? primary))

/-- The option that conflicts with the selected one is not offered, and the one that is offered brings no conflict. -/
theorem offered_compatible_of_removal :
    let d : Definition :=
      { name := "run", command := "docker run"
        options := [{ flag? := some "-d", conflictsWith := ["-it"] }, { flag? := some "-it" }, { flag? := some "--rm" }] }
    let s : Selection := { options := SortedList.empty.insert "-it" }
    Build.checkReferences d s = .ok () ∧ "--rm" ∈ (ofSelection d s).options.map (·.flag) ∧
      "-d" ∉ (ofSelection d s).options.map (·.flag) ∧
      ∃ r r', d.checkBuild s = .ok r ∧ d.checkBuild (s.addOption "--rm") = .ok r' ∧
        ∀ diagnostic ∈ r'.errors, ∀ spelling target, diagnostic.issue = .optionConflict spelling target →
          diagnostic ∈ r.errors := by
  intro d s
  have references : Build.checkReferences d s = .ok () := Build.eq_ok_of_toOption (by decide +kernel)
  have offered : "--rm" ∈ (ofSelection d s).options.map (·.flag) :=
    mem_options_iff.2 ⟨{ flag? := some "--rm" }, by decide +kernel, by decide +kernel, by decide +kernel⟩
  have refused : ∀ o ∈ d.options, isOffered d s o = true → o.primaryFlag? ≠ some "-d" := by decide +kernel
  obtain ⟨r, r', checked, checked', compatible⟩ := offered_compatible_iff references offered
  refine ⟨references, offered, fun member => ?_, r, r', checked, checked', compatible.2 (by decide +kernel)⟩
  obtain ⟨o, declared, free, primary⟩ := mem_options_iff.1 member
  exact refused o declared free primary

/-- The option that the selected one excludes is offered. -/
theorem offers_excluded_option :
    let d : Definition :=
      { name := "run", command := "docker run"
        options := [{ flag? := some "-d", conflictsWith := ["-it"] }, { flag? := some "-it" }] }
    let s : Selection := { options := SortedList.empty.insert "-d" }
    Build.checkReferences d s = .ok () ∧ "-it" ∈ (ofSelection d s).options.map (·.flag) ∧
      ∃ r r', d.checkBuild s = .ok r ∧ d.checkBuild (s.addOption "-it") = .ok r' ∧
        conflict "-d" "-it" ∈ r'.errors ∧ conflict "-d" "-it" ∉ r.errors := by
  intro d s
  have references : Build.checkReferences d s = .ok () := Build.eq_ok_of_toOption (by decide +kernel)
  have offered : "-it" ∈ (ofSelection d s).options.map (·.flag) :=
    mem_options_iff.2 ⟨{ flag? := some "-it" }, by decide +kernel, by decide +kernel, by decide +kernel⟩
  obtain ⟨r, checked⟩ := Build.exists_checked references
  obtain ⟨r', checked'⟩ := Build.exists_checked (@Build.checkReferences_addOption d s "-it" references (by decide +kernel))
  refine ⟨references, offered, r, r', checked, checked', ?_, fun reported => ?_⟩
  · exact (mem_errors_iff_excludes rfl checked').2
      ⟨rfl, { flag? := some "-d", conflictsWith := ["-it"] }, by decide +kernel, by decide +kernel, by decide +kernel,
        by decide +kernel⟩
  · obtain ⟨_, _, _, _, _, known⟩ := (mem_errors_iff_excludes rfl checked).1 reported
    exact absurd known (by decide +kernel)

end Suggestions

end ShellTemplate
