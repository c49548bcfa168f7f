import Mathlib.Data.List.Forall2
import ShellTemplate.Proofs.ValueExposure
import ShellTemplate.Selection

namespace ShellTemplate

/-- The text that takes the place of a value; a blank value stays. -/
def Text.mapFilled (f : String → String) (value : String) : String :=
  if isBlankText value then value else f value

namespace Assignments

def mapFilled (f : String → String) (a : Assignments) : Assignments where
  toList := a.toList.map fun (name, value) => (name, Text.mapFilled f value)
  ordered := List.pairwise_map.2 a.ordered

/-- The entries have one name, and the same value or two values that are not blank. -/
def EntryVaries (x y : String × String) : Prop :=
  x.1 = y.1 ∧ (x.2 = y.2 ∨ Text.isBlankText x.2 = false ∧ Text.isBlankText y.2 = false)

/-- The assignments differ in the texts of values that are not blank. -/
def Varies (a b : Assignments) : Prop :=
  List.Forall₂ EntryVaries a.toList b.toList

theorem get?_mapFilled (f : String → String) (a : Assignments) (name : String) :
    (a.mapFilled f).get? name = (a.get? name).map (Text.mapFilled f) := by
  simp only [get?, mapFilled]
  induction a.toList with
  | nil => rfl
  | cons entry rest ih =>
    obtain ⟨key, value⟩ := entry
    rw [List.map_cons, List.lookup_cons, List.lookup_cons]
    cases name == key with
    | true => rfl
    | false => exact ih

theorem Varies.trans {a b c : Assignments} (first : a.Varies b) (second : b.Varies c) : a.Varies c := by
  unfold Varies at *
  generalize a.toList = xs, b.toList = ys, c.toList = zs at *
  induction first generalizing zs with
  | nil => exact second
  | @cons x y xs ys related _ ih =>
    obtain ⟨z, zs, following, others, rfl⟩ := List.forall₂_cons_left_iff.1 second
    refine .cons ⟨related.1.trans following.1, ?_⟩ (ih zs others)
    rcases related.2 with same | ⟨left, _⟩
    · rw [same]
      exact following.2
    · rcases following.2 with same | ⟨_, right⟩
      · rw [← same]
        exact related.2
      · exact Or.inr ⟨left, right⟩

/-- The function makes no value blank. -/
def Keeps (f : String → String) : Prop :=
  ∀ value, Text.isBlankText value = false → Text.isBlankText (f value) = false

theorem Keeps.isBlankText_mapFilled {f : String → String} (keeps : Keeps f) (value : String) :
    Text.isBlankText (Text.mapFilled f value) = Text.isBlankText value := by
  unfold Text.mapFilled
  cases blank : Text.isBlankText value with
  | true => exact blank
  | false => exact keeps value blank

theorem varies_mapFilled {f : String → String} (keeps : Keeps f) (a : Assignments) : a.Varies (a.mapFilled f) := by
  refine List.forall₂_map_right_iff.2 (List.forall₂_same.2 fun ⟨name, value⟩ _ => ⟨rfl, ?_⟩)
  cases blank : Text.isBlankText value with
  | true => exact Or.inl (if_pos blank).symm
  | false => exact Or.inr ⟨rfl, (keeps.isBlankText_mapFilled value).trans blank⟩

theorem mapFilled_eq_self {f : String → String} {a : Assignments}
    (fixed : ∀ entry ∈ a.toList, Text.isBlankText entry.2 = false → f entry.2 = entry.2) : a.mapFilled f = a := by
  obtain ⟨entries, ordered⟩ := a
  have same : (entries.map fun (name, value) => (name, Text.mapFilled f value)) = entries := by
    refine (List.map_congr_left fun entry member => ?_).trans (List.map_id entries)
    obtain ⟨name, value⟩ := entry
    refine congrArg (Prod.mk name) ?_
    unfold Text.mapFilled
    split
    · rfl
    · rename_i filled
      exact fixed _ member (Bool.eq_false_iff.2 filled)
  simp only [mapFilled, same]

theorem names_mapFilled (f : String → String) (a : Assignments) :
    (a.mapFilled f).toList.map Prod.fst = a.toList.map Prod.fst := by
  rw [mapFilled, List.map_map]
  rfl

end Assignments

namespace Selection

open Assignments QuoteContext

def mapValues (f : String → String) (s : Selection) : Selection :=
  { s with parameterValues := s.parameterValues.mapFilled f, optionValues := s.optionValues.mapFilled f }

/-- The selections differ in the texts of values that are not blank, and in nothing else. -/
structure Varies (s t : Selection) : Prop where
  rest : { t with parameterValues := s.parameterValues, optionValues := s.optionValues } = s
  parameterValues : s.parameterValues.Varies t.parameterValues
  optionValues : s.optionValues.Varies t.optionValues

/-- Every value is blank or a probe. -/
def IsProbe (s : Selection) : Prop :=
  ∀ entry ∈ s.parameterValues.toList ++ s.optionValues.toList,
    Text.isBlankText entry.2 = false → entry.2 ∈ probes

variable {s t u : Selection} {f : String → String}

theorem Varies.mode (varies : s.Varies t) : t.mode = s.mode := by
  rw [← varies.rest]

theorem Varies.escapeValues (varies : s.Varies t) : t.escapeValues = s.escapeValues := by
  rw [← varies.rest]

theorem Varies.trans (first : s.Varies t) (second : t.Varies u) : s.Varies u where
  rest := by
    rw [← first.rest, ← second.rest]
  parameterValues := first.parameterValues.trans second.parameterValues
  optionValues := first.optionValues.trans second.optionValues

theorem varies_mapValues (keeps : Keeps f) (s : Selection) : s.Varies (s.mapValues f) where
  rest := rfl
  parameterValues := varies_mapFilled keeps _
  optionValues := varies_mapFilled keeps _

theorem value?_mapValues (keeps : Keeps f) (s : Selection) (name : String) :
    (s.mapValues f).value? name = (s.value? name).map f := by
  unfold value? mapValues
  rw [get?_mapFilled]
  cases s.parameterValues.get? name with
  | none => rfl
  | some value =>
    rw [Option.map_some, Option.filter_some, Option.filter_some, keeps.isBlankText_mapFilled]
    cases blank : Text.isBlankText value with
    | true => rfl
    | false => simp [Text.mapFilled, blank]

theorem optionValue?_mapValues (keeps : Keeps f) (s : Selection) (o : CommandOption) :
    (s.mapValues f).optionValue? o = (s.optionValue? o).map f := by
  have given : o.spellings.filterMap (s.mapValues f).optionValues.get? =
      (o.spellings.filterMap s.optionValues.get?).map (Text.mapFilled f) := by
    rw [List.map_filterMap]
    exact List.filterMap_congr fun name _ => get?_mapFilled f s.optionValues name
  have kept : ((fun value => !Text.isBlankText value) ∘ Text.mapFilled f) = fun value => !Text.isBlankText value :=
    funext fun value => congrArg not (keeps.isBlankText_mapFilled value)
  rw [optionValue?, given, List.find?_map, kept]
  unfold optionValue?
  cases found : (o.spellings.filterMap s.optionValues.get?).find? fun value => !Text.isBlankText value with
  | none => rfl
  | some value =>
    have filled : Text.isBlankText value = false := by simpa using List.find?_some found
    simp [Text.mapFilled, filled]

theorem keeps_probe : Keeps probe := fun value _ => not_blank_of_mem _ (probe_mem value)

theorem isProbe_mapValues (s : Selection) : (s.mapValues probe).IsProbe := by
  intro entry member filled
  rw [List.mem_append] at member
  have image : ∃ value, entry.2 = Text.mapFilled probe value := by
    rcases member with inside | inside <;> obtain ⟨⟨name, value⟩, _, rfl⟩ := List.mem_map.1 inside <;>
      exact ⟨value, rfl⟩
  obtain ⟨value, same⟩ := image
  rw [same, keeps_probe.isBlankText_mapFilled] at filled
  rw [same, Text.mapFilled, filled]
  exact probe_mem value

theorem mapValues_eq_self (isProbe : s.IsProbe) : s.mapValues probe = s := by
  have fixed (entry : String × String) (member : entry ∈ s.parameterValues.toList ++ s.optionValues.toList)
      (filled : Text.isBlankText entry.2 = false) : probe entry.2 = entry.2 :=
    probe_of_mem _ (isProbe entry member filled)
  rw [mapValues, mapFilled_eq_self fun entry member => fixed entry (List.mem_append_left _ member),
    mapFilled_eq_self fun entry member => fixed entry (List.mem_append_right _ member)]

end Selection

end ShellTemplate
