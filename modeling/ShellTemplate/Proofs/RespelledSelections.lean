import ShellTemplate.Build
import ShellTemplate.Proofs.SortedLookup

namespace ShellTemplate

/-- No spelling belongs to two options. -/
def Definition.HasOwnSpellings (d : Definition) : Prop :=
  d.options.Pairwise fun o p => ∀ flag ∈ o.spellings, p.isSpelled flag = false

instance (d : Definition) : Decidable d.HasOwnSpellings :=
  inferInstanceAs (Decidable (d.options.Pairwise _))

theorem Definition.HasOwnSpellings.findOption?_eq {d : Definition} (own : d.HasOwnSpellings) {o : CommandOption}
    (member : o ∈ d.options) {flag : String} (spelled : o.isSpelled flag = true) : d.findOption? flag = some o := by
  obtain ⟨before, after, options⟩ := List.append_of_mem member
  unfold HasOwnSpellings at own
  rw [options, List.pairwise_append] at own
  refine List.find?_eq_some_iff_append.2 ⟨spelled, before, after, options, fun p earlier => ?_⟩
  rw [Bool.not_eq_true']
  refine Bool.eq_false_iff.2 fun other => ?_
  rw [own.2.2 p earlier o List.mem_cons_self flag (List.contains_iff_mem.1 other)] at spelled
  cases spelled

/-- No option declares the flag. -/
def Definition.isUndeclared (d : Definition) (flag : String) : Bool :=
  (d.findOption? flag).isNone

namespace Selection

/-- The values given for an option, under whatever spellings. -/
def givenValues (s : Selection) (o : CommandOption) : List String :=
  (s.optionValues.toList.filter fun entry => o.isSpelled entry.1).map Prod.snd

/-- The selections differ only in how options are spelled: they select the same ones, and they give each one the
same value, if any, under one of its spellings. -/
structure Respells (d : Definition) (s t : Selection) : Prop where
  rest : { t with options := s.options, optionValues := s.optionValues } = s
  selected : ∀ o ∈ d.options, t.options.toList.any o.isSpelled = s.options.toList.any o.isSpelled
  single : ∀ o ∈ d.options, (s.givenValues o).length ≤ 1
  given : ∀ o ∈ d.options, t.givenValues o = s.givenValues o
  otherFlags : t.options.toList.filter d.isUndeclared = s.options.toList.filter d.isUndeclared
  otherValues : (t.optionValues.toList.filter fun entry => d.isUndeclared entry.1) =
    s.optionValues.toList.filter fun entry => d.isUndeclared entry.1

theorem isSome_selectedSpelling? (s : Selection) (o : CommandOption) :
    (s.selectedSpelling? o).isSome = s.options.toList.any o.isSpelled := by
  rw [Bool.eq_iff_iff, selectedSpelling?, List.find?_isSome, List.any_eq_true]
  simp only [isSelected, NameSet.contains, CommandOption.isSpelled, List.contains_iff_mem, and_comm]

theorem mem_givenValues_iff {s : Selection} {o : CommandOption} {value : String} :
    value ∈ s.givenValues o ↔ ∃ flag, o.isSpelled flag = true ∧ s.optionValues.get? flag = some value := by
  simp only [givenValues, List.mem_map, List.mem_filter]
  constructor
  · rintro ⟨⟨flag, _⟩, ⟨member, spelled⟩, rfl⟩
    exact ⟨flag, spelled, lookup_of_mem (SortedList.nodup_keys _) member⟩
  · rintro ⟨flag, spelled, found⟩
    exact ⟨(flag, value), ⟨mem_of_lookup found, spelled⟩, rfl⟩

/-- Of an option with one value at most it does not matter under which spelling the value is given. -/
theorem optionValue?_of_single {s : Selection} {o : CommandOption} (single : (s.givenValues o).length ≤ 1) :
    s.optionValue? o = (s.givenValues o).find? fun value => !Text.isBlankText value := by
  have member_iff (value : String) : value ∈ o.spellings.filterMap s.optionValues.get? ↔ value ∈ s.givenValues o := by
    rw [mem_givenValues_iff, List.mem_filterMap]
    simp only [CommandOption.isSpelled, List.contains_iff_mem]
  unfold optionValue?
  cases only : s.givenValues o with
  | nil =>
    have none : o.spellings.filterMap s.optionValues.get? = [] :=
      List.eq_nil_iff_forall_not_mem.2 fun value member => by
        rw [member_iff, only] at member
        exact nomatch member
    rw [none]
  | cons value others =>
    obtain rfl : others = [] := by
      rw [only, List.length_cons] at single
      exact List.length_eq_zero_iff.1 (by omega)
    simp only [only, List.mem_singleton] at member_iff
    -- An option may declare one spelling twice, so that the one value is met more than once.
    have same := List.eq_replicate_iff.2 ⟨rfl, fun other member => (member_iff other).1 member⟩
    have present := List.length_pos_of_mem ((member_iff value).2 rfl)
    rw [same, List.find?_replicate, if_neg (by omega), List.find?_singleton]

namespace Respells

variable {d : Definition} {s t : Selection} (respells : Respells d s t)

include respells

theorem eq_with : t = { s with options := t.options, optionValues := t.optionValues } := by
  rw [← respells.rest]

theorem mode : t.mode = s.mode := by
  rw [respells.eq_with]

theorem value? (name : String) : t.value? name = s.value? name := by
  rw [respells.eq_with]
  rfl

theorem isSome_selectedSpelling? {o : CommandOption} (member : o ∈ d.options) :
    (t.selectedSpelling? o).isSome = (s.selectedSpelling? o).isSome := by
  rw [Selection.isSome_selectedSpelling?, Selection.isSome_selectedSpelling?, respells.selected o member]

theorem optionValue? {o : CommandOption} (member : o ∈ d.options) : t.optionValue? o = s.optionValue? o := by
  have given := respells.given o member
  have single := respells.single o member
  rw [optionValue?_of_single single, ← given, optionValue?_of_single (given ▸ single)]

/-- A flag that no option declares is selected as before. -/
theorem isSelected {flag : String} (undeclared : d.findOption? flag = none) : t.isSelected flag = s.isSelected flag := by
  have same := congrArg (flag ∈ ·) respells.otherFlags
  simp only [List.mem_filter, Definition.isUndeclared, undeclared, Option.isNone_none, and_true] at same
  rw [Bool.eq_iff_iff]
  simpa only [Selection.isSelected, NameSet.contains, List.contains_iff_mem] using Iff.of_eq same

theorem hasOption (flag : String) : t.hasOption d flag = s.hasOption d flag := by
  unfold Selection.hasOption
  cases found : d.findOption? flag with
  | none => exact respells.isSelected found
  | some o => exact respells.isSome_selectedSpelling? (List.mem_of_find?_eq_some found)

theorem checkReferences : Build.checkReferences d t = Build.checkReferences d s := by
  have otherValues : t.optionValues.toList.filter (d.isUndeclared ∘ Prod.fst) =
      s.optionValues.toList.filter (d.isUndeclared ∘ Prod.fst) := respells.otherValues
  have firstFlag : (t.options.toList ++ t.optionValues.toList.map Prod.fst).find? d.isUndeclared =
      (s.options.toList ++ s.optionValues.toList.map Prod.fst).find? d.isUndeclared := by
    rw [← List.head?_filter, ← List.head?_filter, List.filter_append, List.filter_append, respells.otherFlags,
      List.filter_map, List.filter_map, otherValues]
  have values : t.parameterValues = s.parameterValues := by rw [respells.eq_with]
  have trailing : t.trailing = s.trailing := by rw [respells.eq_with]
  unfold Definition.isUndeclared at firstFlag
  unfold Build.checkReferences
  rw [firstFlag, values, trailing]

end Respells

end Selection

end ShellTemplate
