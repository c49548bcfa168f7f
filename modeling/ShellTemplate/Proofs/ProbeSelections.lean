import Mathlib.Data.List.Sections
import ShellTemplate.Proofs.SelectionVariation

namespace ShellTemplate

open QuoteContext

namespace Assignments

/-- What may stand in place of an entry, with a probe for a value that is not blank. -/
def entryProbes (entry : String × String) : List (String × String) :=
  (if Text.isBlankText entry.2 then [entry.2] else probes).map (Prod.mk entry.1)

theorem mem_entryProbes_iff {x y : String × String} :
    y ∈ entryProbes x ↔ (Text.isBlankText y.2 = false → y.2 ∈ probes) ∧ EntryVaries x y := by
  obtain ⟨name, value⟩ := x
  obtain ⟨other, text⟩ := y
  unfold entryProbes EntryVaries
  cases blank : Text.isBlankText value with
  | true =>
    rw [if_pos rfl, List.map_singleton, List.mem_singleton, Prod.mk.injEq]
    constructor
    · rintro ⟨rfl, rfl⟩
      exact ⟨fun filled => absurd (blank.symm.trans filled) Bool.true_eq_false.mp, rfl, Or.inl rfl⟩
    · rintro ⟨_, rfl, same | ⟨filled, _⟩⟩
      · exact ⟨rfl, same.symm⟩
      · exact absurd filled Bool.true_eq_false.mp
  | false =>
    rw [if_neg Bool.false_ne_true, List.mem_map]
    constructor
    · rintro ⟨probe, member, same⟩
      cases same
      exact ⟨fun _ => member, rfl, Or.inr ⟨rfl, not_blank_of_mem text member⟩⟩
    · rintro ⟨isProbe, rfl, related⟩
      refine ⟨text, isProbe ?_, rfl⟩
      rcases related with rfl | ⟨_, filled⟩
      · exact blank
      · exact filled

/-- Each entry may be exchanged on its own. -/
theorem mem_sections_entryProbes_iff {xs ys : List (String × String)} :
    ys ∈ (xs.map entryProbes).sections ↔
      (∀ y ∈ ys, Text.isBlankText y.2 = false → y.2 ∈ probes) ∧ List.Forall₂ EntryVaries xs ys := by
  rw [List.mem_sections, List.forall₂_map_right_iff]
  simp only [mem_entryProbes_iff]
  rw [List.forall₂_and_left]
  exact and_congr_right fun _ => ⟨List.Forall₂.flip, List.Forall₂.flip⟩

theorem ordered_of_entryVaries {xs ys : List (String × String)} (ordered : xs.Pairwise fun x y => x.1 < y.1)
    (varies : List.Forall₂ EntryVaries xs ys) : ys.Pairwise fun x y => x.1 < y.1 := by
  have names : ys.map Prod.fst = xs.map Prod.fst := by
    induction varies with
    | nil => rfl
    | cons related _ ih => rw [List.map_cons, List.map_cons, related.1, ih (List.pairwise_cons.1 ordered).2]
  rw [← List.pairwise_map (f := Prod.fst) (R := (· < ·))] at ordered ⊢
  rw [names]
  exact ordered

/-- The assignments with probes for the values that are not blank. -/
def probeVariations (a : Assignments) : List Assignments :=
  (a.toList.map entryProbes).sections.pmap SortedList.mk fun _ member =>
    ordered_of_entryVaries a.ordered (mem_sections_entryProbes_iff.1 member).2

theorem mem_probeVariations_iff {a b : Assignments} : b ∈ a.probeVariations ↔
    (∀ entry ∈ b.toList, Text.isBlankText entry.2 = false → entry.2 ∈ probes) ∧ a.Varies b := by
  rw [probeVariations, List.mem_pmap]
  constructor
  · rintro ⟨entries, member, rfl⟩
    exact mem_sections_entryProbes_iff.1 member
  · intro holds
    exact ⟨b.toList, mem_sections_entryProbes_iff.2 holds, rfl⟩

end Assignments

namespace Selection

/-- The selections with probes for the values that are not blank. -/
def probeVariations (s : Selection) : List Selection :=
  s.parameterValues.probeVariations.flatMap fun parameterValues =>
    s.optionValues.probeVariations.map fun optionValues => { s with parameterValues, optionValues }

theorem mem_probeVariations_iff {s t : Selection} : t ∈ s.probeVariations ↔ s.Varies t ∧ t.IsProbe := by
  simp only [probeVariations, List.mem_flatMap, List.mem_map, Assignments.mem_probeVariations_iff, IsProbe,
    List.forall_mem_append]
  constructor
  · rintro ⟨a, ⟨probesFirst, variesFirst⟩, b, ⟨probesSecond, variesSecond⟩, rfl⟩
    exact ⟨⟨rfl, variesFirst, variesSecond⟩, probesFirst, probesSecond⟩
  · rintro ⟨varies, probesFirst, probesSecond⟩
    refine ⟨_, ⟨probesFirst, varies.parameterValues⟩, _, ⟨probesSecond, varies.optionValues⟩, ?_⟩
    rw [← varies.rest]

end Selection

end ShellTemplate
