import ShellTemplate.Proofs.ValidSelections

namespace ShellTemplate

namespace Build

/-- What a build puts into the places of the template that belong to a declared parameter, with that
parameter. -/
def substitutions (d : Definition) (s : Selection) : List (Parameter × String) :=
  d.occurrences.filterMap fun p =>
    (d.findParameter? p.name).bind fun parameter =>
      (occurrenceValue? s p (some parameter)).map fun value => (parameter, value)

theorem mem_substitutions_iff {d : Definition} {s : Selection} {parameter : Parameter} {value : String} :
    (parameter, value) ∈ substitutions d s ↔ ∃ p ∈ d.occurrences, d.findParameter? p.name = some parameter ∧
      occurrenceValue? s p (some parameter) = some value := by
  simp [substitutions, Option.bind_eq_some_iff]

/-- The text of a place of the template that belongs to a declared parameter is empty, or it is a substituted
value, or the placeholder itself where missing values are let through. -/
theorem occurrenceText_of_declared {d : Definition} {s : Selection} {t : Token} {p : Placeholder}
    {parameter : Parameter} {text : String} (token : t ∈ Token.scan d.command) (found : p ∈ Placeholder.scan t.text)
    (declared : d.findParameter? p.name = some parameter) (made : occurrenceText d s t.text p = .ok text) :
    text = "" ∨ (s.validateRequired = false ∧ text = String.ofList (Placeholder.written p.name p.kind)) ∨
      ∃ value, (parameter, value) ∈ substitutions d s ∧ text = escaped s (.atByte t.text p.span.start) value := by
  unfold occurrenceText at made
  simp only [declared] at made
  cases given : occurrenceValue? s p (some parameter) with
  | some value =>
    rw [given] at made
    have member : (parameter, value) ∈ substitutions d s :=
      mem_substitutions_iff.2 ⟨p, List.mem_flatMap.2 ⟨t, token, found⟩, declared, given⟩
    exact Or.inr (Or.inr ⟨value, member, (Except.ok.inj made).symm⟩)
  | none =>
    simp only [given] at made
    split at made
    · exact Or.inl (Except.ok.inj made).symm
    · split at made
      · cases made
      · rename_i lenient
        exact Or.inr (Or.inl ⟨Bool.eq_false_iff.2 lenient, (Except.ok.inj made).symm⟩)

end Build

namespace Check

variable {d : Definition} {s : Selection}

/-- A value that the check of the selection does not look at: it is blank, it belongs to an option that is not
selected, or it is not the one value that the check takes the parameter to have. -/
def isUnchecked (d : Definition) (s : Selection) (parameter : Parameter) (value : String) : Bool :=
  Text.isBlankText value || parameter.parentOption?.any (fun parent => !s.hasOption d parent) ||
    resolvedValue? d s parameter != some value

theorem selected_of_checked {parameter : Parameter} {value : String} (seen : isUnchecked d s parameter value = false) :
    parameter.parentOption?.all (s.hasOption d) = true ∧ resolvedValue? d s parameter = some value ∧
      Text.isBlankText value = false := by
  simp only [isUnchecked, Bool.or_eq_false_iff, bne_eq_false_iff_eq] at seen
  obtain ⟨⟨filled, selected⟩, resolved⟩ := seen
  refine ⟨?_, resolved, filled⟩
  cases bound : parameter.parentOption? with
  | none => rfl
  | some parent => simpa [bound] using selected

section

variable {r : Report} (checked : d.checkBuild s = .ok r) (valid : r.isValid = true)

include checked valid

/-- After the selection was found valid, a value that the check looks at passes. -/
theorem passes_of_mem_substitutions {parameter : Parameter} {value : String}
    (member : (parameter, value) ∈ Build.substitutions d s) (seen : isUnchecked d s parameter value = false) :
    passes parameter value = true := by
  obtain ⟨p, _, declared, _⟩ := Build.mem_substitutions_iff.1 member
  obtain ⟨selected, resolved, visible⟩ := selected_of_checked seen
  have passed := isPassed_of_valid checked valid
  exact passed.passes parameter (Definition.findParameter?_eq_some declared).1 selected value resolved visible

/-- What a build writes for a place of the template after the selection was found valid: nothing, or what a value is
escaped to that passes unless the check does not look at it, or the placeholder where missing values are let through. -/
theorem occurrenceText_of_valid {t : Token} {p : Placeholder} {parameter : Parameter} {text : String}
    (token : t ∈ Token.scan d.command) (found : p ∈ Placeholder.scan t.text)
    (declared : d.findParameter? p.name = some parameter) (made : Build.occurrenceText d s t.text p = .ok text) :
    text = "" ∨ (s.validateRequired = false ∧ text = String.ofList (Placeholder.written p.name p.kind)) ∨
      ∃ value, text = Build.escaped s (.atByte t.text p.span.start) value ∧
        (isUnchecked d s parameter value = false → passes parameter value = true) := by
  rcases Build.occurrenceText_of_declared token found declared made with empty | left | ⟨value, member, written⟩
  · exact Or.inl empty
  · exact Or.inr (Or.inl left)
  · exact Or.inr (Or.inr ⟨value, written, passes_of_mem_substitutions checked valid member⟩)

end

/-- What a build puts into the template passes the checks of its parameters' types after the selection was found
valid, exactly as long as what that check did not look at passes them. -/
theorem substitutions_pass_iff {r : Report} (checked : d.checkBuild s = .ok r) (valid : r.isValid = true) :
    (∀ x ∈ Build.substitutions d s, x.2 ≠ "" → passes x.1 x.2 = true) ↔
      ∀ x ∈ Build.substitutions d s, x.2 ≠ "" → isUnchecked d s x.1 x.2 = true → passes x.1 x.2 = true := by
  refine ⟨fun every x member filled _ => every x member filled, fun unchecked x member filled => ?_⟩
  cases seen : isUnchecked d s x.1 x.2 with
  | true => exact unchecked x member filled seen
  | false => exact passes_of_mem_substitutions checked valid member seen

/-- A given number and a default that is no path: the one is checked, and the other is of no type that is. -/
theorem substitutions_pass_of_number :
    let d : Definition :=
      { name := "repeat", command := "repeat \x7b\x7bcount\x7d\x7d \x7b\x7btext:a b\x7d\x7d"
        parameters := [{ name := "count", valueType := .number }, { name := "text" }] }
    let s : Selection := { mode := .executable, parameterValues := SortedList.empty.insert ("count", "12") }
    (∃ r, d.checkBuild s = .ok r ∧ r.isValid = true) ∧
      (∃ parameter, (parameter, "12") ∈ Build.substitutions d s) ∧
      ∀ x ∈ Build.substitutions d s, x.2 ≠ "" → passes x.1 x.2 = true := by
  intro d s
  have valid : (d.checkBuild s).toOption.map Report.isValid = some true := by decide +kernel
  obtain ⟨r, checked, isValid⟩ := Option.map_eq_some_iff.1 valid
  have made := Build.eq_ok_of_toOption checked
  have seen : ∀ x ∈ Build.substitutions d s, isUnchecked d s x.1 x.2 = false := by decide +kernel
  refine ⟨⟨r, made, isValid⟩, ⟨{ name := "count", valueType := .number }, by decide +kernel⟩,
    (substitutions_pass_iff made isValid).2 fun x member _ unseen => ?_⟩
  rw [seen x member] at unseen
  cases unseen

/-- Of two placeholders of one name the check reads the default of the first, and the build uses both. -/
theorem substitutions_fail_of_second_default :
    let p : Parameter := { name := "n", valueType := .number }
    let d : Definition :=
      { name := "run", command := "run \x7b\x7bn:1\x7d\x7d \x7b\x7bn:abc\x7d\x7d", parameters := [p] }
    let s : Selection := { mode := .executable }
    (∃ r, d.checkBuild s = .ok r ∧ r.isValid = true) ∧ d.build s = .ok (some "run 1 abc") ∧
      (p, "abc") ∈ Build.substitutions d s ∧ passes p "abc" = false := by
  intro p d s
  have valid : (d.checkBuild s).toOption.map Report.isValid = some true := by decide +kernel
  obtain ⟨r, checked, isValid⟩ := Option.map_eq_some_iff.1 valid
  exact ⟨⟨r, Build.eq_ok_of_toOption checked, isValid⟩, Build.eq_ok_of_toOption (by decide +kernel),
    by decide +kernel, by decide +kernel⟩

end Check

end ShellTemplate
