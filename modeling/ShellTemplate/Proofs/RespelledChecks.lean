import ShellTemplate.Proofs.MissingValues
import ShellTemplate.Proofs.RespelledBuild

namespace ShellTemplate

/-- The same problem of an option, under another spelling of it. -/
def Issue.withFlag (flag : String) : Issue → Issue
  | .invalidValue _ expected value => .invalidValue flag expected value
  | .notInEnum _ value allowed => .notInEnum flag value allowed
  | .suspiciousPath _ value => .suspiciousPath flag value
  | .missingOptionValue _ => .missingOptionValue flag
  | .optionConflict _ target => .optionConflict flag target
  | .missingDependency _ target => .missingDependency flag target
  | issue => issue

/-- Where a problem of an option is shown: what is wrong with its value stands at the flag. -/
def Issue.fieldWithFlag? (flag : String) (field? : Option String) : Issue → Option String
  | .invalidValue .. | .notInEnum .. | .suspiciousPath .. => some flag
  | _ => field?

def Diagnostic.withFlag (flag : String) (a : Diagnostic) : Diagnostic :=
  .ofIssue a.severity (a.issue.withFlag flag) (a.issue.fieldWithFlag? flag a.field?)

namespace Report

def withFlag (flag : String) (r : Report) : Report where
  errors := r.errors.map (·.withFlag flag)
  warnings := r.warnings.map (·.withFlag flag)
  suggestions := r.suggestions.map (·.withFlag flag)

/-- What is found about an option, under the spelling by which it is selected. -/
def respelled (r : Report) : Option String → Report
  | some flag => r.withFlag flag
  | none => r

variable {flag : String}

theorem withFlag_append (a b : Report) : (a ++ b).withFlag flag = a.withFlag flag ++ b.withFlag flag := by
  simp only [withFlag, errors_append, warnings_append, suggestions_append, List.map_append]
  rfl

theorem withFlag_concat_map {α : Type} {f g : α → Report} (each : ∀ x, (f x).withFlag flag = g x) (xs : List α) :
    (concat (xs.map f)).withFlag flag = concat (xs.map g) := by
  induction xs with
  | nil => rfl
  | cons x xs ih =>
    refine (withFlag_append (f x) (concat (xs.map f))).trans ?_
    rw [each, ih]
    rfl

theorem withFlag_guarded (condition : Bool) (r : Report) :
    (guarded condition r).withFlag flag = guarded condition (r.withFlag flag) := by
  cases condition <;> rfl

end Report

namespace Check

open Report

/-- What is found about an option that is selected by a spelling. -/
def spelledOption (d : Definition) (s : Selection) (o : CommandOption) (spelling : String) : Report :=
  .guarded o.hasValue (selectedValue d s o spelling) ++
    .concat (o.conflictsWith.map fun target =>
      .guarded (s.hasOption d target) (inOptions (.optionConflict spelling target))) ++
    .concat (o.dependsOn.map fun target =>
      .guarded (!s.hasOption d target) (inOptions (.missingDependency spelling target)))

theorem value_withFlag (name flag : String) (valueType : ValueType) (choices : List String) (given : String) :
    (Check.value name valueType choices given).withFlag flag = Check.value flag valueType choices given := by
  unfold Check.value
  cases valueType with
  | string => rfl
  | number | url | email | boolean | choice => exact withFlag_guarded _ _
  | file | directory =>
    dsimp only
    split <;> exact withFlag_guarded _ _

theorem spelledOption_withFlag (d : Definition) (s : Selection) (o : CommandOption) (spelling flag : String) :
    (spelledOption d s o spelling).withFlag flag = spelledOption d s o flag := by
  have value : (selectedValue d s o spelling).withFlag flag = selectedValue d s o flag := by
    unfold selectedValue
    dsimp only
    split
    · split
      · exact value_withFlag _ _ _ _ _
      · rfl
    · exact withFlag_guarded _ _
  unfold spelledOption
  rw [withFlag_append, withFlag_append, withFlag_guarded, value, withFlag_concat_map fun _ => withFlag_guarded _ _,
    withFlag_concat_map fun _ => withFlag_guarded _ _]
  rfl

section

variable {d : Definition} {s t : Selection} (respells : Selection.Respells d s t)

include respells

theorem enforcesValues_respelled : enforcesValues t = enforcesValues s := by
  rw [respells.eq_with]
  rfl

theorem selectedParameters_respelled (ps : List Parameter) : selectedParameters d t ps = selectedParameters d s ps := by
  have selected : selectedParameter d t = selectedParameter d s := by
    funext p
    have active (condition : Condition) : conditionHolds d t condition = conditionHolds d s condition := by
      cases condition with
      | option flag => exact respells.hasOption flag
      | parameter name => exact congrArg Option.isSome (respells.value? name)
    have resolved : resolvedValue? d t p = resolvedValue? d s p := by
      rw [respells.eq_with]
      rfl
    unfold selectedParameter
    simp only [funext active, resolved, enforcesValues_respelled respells, respells.hasOption]
  induction ps with
  | nil => rfl
  | cons p rest ih => rw [selectedParameters, selectedParameters, selected, ih]

theorem spelledOption_respelled {o : CommandOption} (member : o ∈ d.options) (spelling : String) :
    spelledOption d t o spelling = spelledOption d s o spelling := by
  unfold spelledOption selectedValue
  simp only [respells.hasOption, Build.optionValue?_respelled respells member, enforcesValues_respelled respells]

/-- What is found about an option is the same, and the flag is spelled as it is selected. -/
theorem selectedOption_respelled {o : CommandOption} (member : o ∈ d.options) :
    selectedOption d t o = (selectedOption d s o).respelled (t.selectedSpelling? o) := by
  have alike := respells.isSome_selectedSpelling? member
  unfold selectedOption
  cases before : s.selectedSpelling? o with
  | none =>
    rw [before, Option.isSome_none, Option.isSome_eq_false_iff, Option.isNone_iff_eq_none] at alike
    rw [alike]
    rfl
  | some spelling =>
    rw [before, Option.isSome_some, Option.isSome_iff_exists] at alike
    obtain ⟨flag, after⟩ := alike
    rw [after]
    exact (spelledOption_respelled respells member flag).trans (spelledOption_withFlag d s o spelling flag).symm

theorem leftovers_respelled : leftovers d t = leftovers d s := by
  have occurrences : unfilledOccurrences d t = unfilledOccurrences d s := by
    rw [respells.eq_with]
    rfl
  have parameters : unfilledParameters d t = unfilledParameters d s := by
    rw [respells.eq_with]
    rfl
  have options : unfilledOptions d t = unfilledOptions d s := by
    unfold unfilledOptions
    refine congrArg (List.map _) (List.filter_congr fun o member => ?_)
    rw [respells.isSome_selectedSpelling? member, Build.optionValue?_respelled respells member]
  unfold leftovers
  rw [occurrences, parameters, options]

end

/-- The names of the values that are reported to be missing. -/
def reportedNames (d : Definition) (r : Report) : List String :=
  r.errors.filterMap fun diagnostic => reportedName? d diagnostic.issue

theorem reportedNames_append (d : Definition) (a b : Report) :
    reportedNames d (a ++ b) = reportedNames d a ++ reportedNames d b :=
  List.filterMap_append

theorem reportedNames_concat_map {d : Definition} {α : Type} {f g : α → Report} {xs : List α}
    (same : ∀ x ∈ xs, reportedNames d (f x) = reportedNames d (g x)) :
    reportedNames d (concat (xs.map f)) = reportedNames d (concat (xs.map g)) := by
  induction xs with
  | nil => rfl
  | cons x xs ih =>
    obtain ⟨head, tail⟩ := List.forall_mem_cons.1 same
    change reportedNames d (f x ++ concat (xs.map f)) = reportedNames d (g x ++ concat (xs.map g))
    rw [reportedNames_append, reportedNames_append, head, ih tail]

/-- A missing value is reported under a spelling of the option. -/
theorem selectedOption_spells (d : Definition) (s : Selection) (o : CommandOption) :
    ErrorsAre (fun issue => ∀ flag, issue = .missingOptionValue flag → o.isSpelled flag = true) (selectedOption d s o) := by
  unfold selectedOption
  cases selected : s.selectedSpelling? o with
  | none => simp [inOptions]
  | some spelling =>
    have spelled : o.isSpelled spelling = true := List.contains_iff_mem.2 (List.mem_of_find?_eq_some selected)
    have given (valueType : ValueType) (choices : List String) (value : String) :
        ErrorsAre (fun issue => ∀ flag, issue = .missingOptionValue flag → o.isSpelled flag = true)
          (Check.value spelling valueType choices value) := by
      unfold Check.value
      cases valueType <;> dsimp only <;> try split
      all_goals simp
    have value : ErrorsAre (fun issue => ∀ flag, issue = .missingOptionValue flag → o.isSpelled flag = true)
        (selectedValue d s o spelling) := by
      unfold selectedValue
      dsimp only
      split
      · split
        · exact given _ _ _
        · exact errorsAre_empty
      · simp [inOptions, spelled]
    simp [inOptions, value]

/-- What is found about a selection apart from its options. -/
def beforeOptions (d : Definition) (s : Selection) : Report :=
  .concat ((Placeholder.names d.command).map fun name =>
      .guarded (d.findParameter? name).isNone (inCommand (.undefinedPlaceholder name))) ++
    ((selectedParameters d s d.parameters).run .standard).1

/-- A check tells of the placeholders and parameters, then of the options, then of the placeholders that are left,
and at last of the command that is built. -/
theorem checkBuild_eq (d : Definition) (s : Selection) :
    d.checkBuild s = (Build.checkReferences d s).map fun _ =>
      beforeOptions d s ++ .concat (d.options.map (selectedOption d s)) ++
        .guarded (s.mode == .executable) (unsubstituted d s (before d s)) ++ rereading d s := by
  unfold Definition.checkBuild
  rw [Definition.run_checkBuildWith]
  cases references : Build.checkReferences d s with
  | error e => rfl
  | ok _ => exact conclude_eq references (before d s)

section

variable {d : Definition} {s t : Selection} (respells : Selection.Respells d s t)

include respells

theorem beforeOptions_respelled : beforeOptions d t = beforeOptions d s := by
  unfold beforeOptions
  rw [selectedParameters_respelled respells]

/-- The spelling under which a missing value is reported does not matter if it belongs to one option. -/
theorem reportedNames_selectedOption (own : d.HasOwnSpellings) {o : CommandOption} (member : o ∈ d.options) :
    reportedNames d (selectedOption d t o) = reportedNames d (selectedOption d s o) := by
  rw [selectedOption_respelled respells member]
  cases selected : t.selectedSpelling? o with
  | none => rfl
  | some flag =>
    have spelled : o.isSpelled flag = true := List.contains_iff_mem.2 (List.mem_of_find?_eq_some selected)
    refine List.filterMap_map.trans (List.filterMap_congr fun diagnostic reported => ?_)
    have spells := selectedOption_spells d s o diagnostic reported
    change reportedName? d (diagnostic.issue.withFlag flag) = reportedName? d diagnostic.issue
    cases issue : diagnostic.issue with
    | missingOptionValue other =>
      change (d.findOption? flag).map _ = (d.findOption? other).map _
      rw [own.findOption?_eq member spelled, own.findOption?_eq member (spells other issue)]
    | _ => rfl

theorem unsubstituted_respelled (own : d.HasOwnSpellings) :
    unsubstituted d t (before d t) = unsubstituted d s (before d s) := by
  have names : reportedNames d (before d t) = reportedNames d (before d s) := by
    change reportedNames d (beforeOptions d t ++ _) = reportedNames d (beforeOptions d s ++ _)
    rw [reportedNames_append, reportedNames_append, beforeOptions_respelled respells,
      reportedNames_concat_map fun o member => reportedNames_selectedOption respells own member]
  unfold reportedNames at names
  unfold unsubstituted unreported
  rw [names, leftovers_respelled respells]

/-- Whatever spellings are used, the same is found about a selection: what is found about an option is told under the
spelling by which it is selected. -/
theorem checkBuild_respelled (own : d.HasOwnSpellings) : ∃ found : Except BuildError (Report × Report),
    d.checkBuild s = found.map (fun (front, back) =>
      front ++ .concat (d.options.map (selectedOption d s)) ++ back ++ rereading d s) ∧
    d.checkBuild t = found.map (fun (front, back) =>
      front ++ .concat (d.options.map fun o => (selectedOption d s o).respelled (t.selectedSpelling? o)) ++ back ++
        rereading d t) := by
  have options : d.options.map (selectedOption d t) =
      d.options.map fun o => (selectedOption d s o).respelled (t.selectedSpelling? o) :=
    List.map_congr_left fun o member => selectedOption_respelled respells member
  refine ⟨(Build.checkReferences d s).map fun _ =>
    (beforeOptions d s, .guarded (s.mode == .executable) (unsubstituted d s (before d s))), ?_, ?_⟩
  · rw [checkBuild_eq]
    cases Build.checkReferences d s <;> rfl
  · rw [checkBuild_eq, respells.checkReferences, beforeOptions_respelled respells,
      unsubstituted_respelled respells own, options, respells.mode]
    cases Build.checkReferences d s <;> rfl

end

end Check

/-- All spellings of an option mean the same if none belongs to two options. -/
theorem Definition.spellings_alike {d : Definition} {s t : Selection} (own : d.HasOwnSpellings)
    (respells : Selection.Respells d s t) :
    (∃ made : Except BuildError (Option Build.Outline),
      d.build s = made.map (·.map (·.text d s)) ∧ d.build t = made.map (·.map (·.text d t))) ∧
    ∃ found : Except BuildError (Report × Report),
      d.checkBuild s = found.map (fun (front, back) =>
        front ++ .concat (d.options.map (Check.selectedOption d s)) ++ back ++ Check.rereading d s) ∧
      d.checkBuild t = found.map (fun (front, back) =>
        front ++ .concat (d.options.map fun o => (Check.selectedOption d s o).respelled (t.selectedSpelling? o)) ++
          back ++ Check.rereading d t) :=
  ⟨Build.build_respelled respells, Check.checkBuild_respelled respells own⟩

/-- Two options that exclude each other, spelled briefly and at length, one of them with a value. -/
theorem Definition.spellings_alike_of_archive :
    let d : Definition :=
      { name := "archive", command := "tar"
        options := [{ flag? := some "-v", longFlag? := some "--verbose", conflictsWith := ["-f"] },
          { flag? := some "-f", longFlag? := some "--file", hasValue := true, valueType? := some .file }] }
    let s : Selection :=
      { mode := .executable, options := (SortedList.empty.insert "-v").insert "-f"
        optionValues := SortedList.empty.insert ("-f", "../a") }
    let t : Selection :=
      { mode := .executable, options := (SortedList.empty.insert "--verbose").insert "--file"
        optionValues := SortedList.empty.insert ("--file", "../a") }
    d.HasOwnSpellings ∧ Selection.Respells d s t ∧
      d.build s = .ok (some "tar -v -f ../a") ∧ d.build t = .ok (some "tar --verbose --file ../a") ∧
      ∃ found : Except BuildError (Report × Report),
        d.checkBuild s = found.map (fun (front, back) =>
          front ++ .concat (d.options.map (Check.selectedOption d s)) ++ back ++ Check.rereading d s) ∧
        d.checkBuild t = found.map (fun (front, back) =>
          front ++ .concat (d.options.map fun o => (Check.selectedOption d s o).respelled (t.selectedSpelling? o)) ++
            back ++ Check.rereading d t) := by
  intro d s t
  have own : d.HasOwnSpellings := by decide +kernel
  have respells : Selection.Respells d s t :=
    { rest := by decide +kernel
      selected := by decide +kernel
      single := by decide +kernel
      given := by decide +kernel
      otherFlags := by decide +kernel
      otherValues := by decide +kernel }
  obtain ⟨_, checked⟩ := spellings_alike own respells
  exact ⟨own, respells, by decide +kernel, by decide +kernel, checked⟩

end ShellTemplate
