import ShellTemplate.Definition.Normalize
import ShellTemplate.Proofs.TextRuns
import ShellTemplate.Proofs.TrimmedTexts

namespace ShellTemplate

theorem filterMap_filterMap_of_fixed {α : Type} {f : α → Option α} (fixed : ∀ x y, f x = some y → f y = some y)
    (xs : List α) : (xs.filterMap f).filterMap f = xs.filterMap f := by
  have again (x : α) : (f x).bind f = f x := by
    cases kept : f x with
    | none => rfl
    | some y => exact fixed x y kept
  rw [List.filterMap_filterMap]
  exact congrArg (xs.filterMap ·) (funext again)

theorem Text.bind_trimmed?_trimmed? (text? : Option String) :
    (text?.bind trimmed?).bind trimmed? = text?.bind trimmed? := by
  cases trimmed : text?.bind trimmed? with
  | none => rfl
  | some text =>
    obtain ⟨own, rfl, trims⟩ := Option.bind_eq_some_iff.1 trimmed
    rw [Option.bind_some, trimmed?_of_trimmed trims]

theorem Parameter.normalized?_of_normalized {p q : Parameter} (normal : p.normalized? = some q) :
    q.normalized? = some q := by
  obtain ⟨name, trimmed, rfl⟩ := Option.map_eq_some_iff.1 normal
  simp only [normalized?, Text.trimmed?_of_trimmed trimmed, Text.trim_trim, Option.map_some]

theorem CommandOption.normalized?_of_normalized {o q : CommandOption} (normal : o.normalized? = some q) :
    q.normalized? = some q := by
  unfold normalized? at normal
  dsimp only at normal
  split at normal
  · rename_i flagged
    cases normal
    simp only [normalized?, Text.bind_trimmed?_trimmed?, Text.trim_trim, flagged, if_true]
  · contradiction

namespace Definition

/-- A tag as it is kept, if it is not empty. -/
def tagForm (tag : String) : String :=
  Text.lowercase (Text.trim tag)

theorem tags_normalized (d : Definition) :
    d.normalized.tags = Text.distinct ((d.tags.map tagForm).filter fun tag => !tag.isEmpty) := rfl

theorem tagForm_tagForm (tag : String) : tagForm (tagForm tag) = tagForm tag := by
  have trimmed : Text.trim (tagForm tag) = tagForm tag := Text.trim_lowercase (Text.trim_trim tag)
  rw [tagForm, trimmed, tagForm, Text.lowercase_lowercase]

theorem tags_normalized_normalized (d : Definition) : d.normalized.normalized.tags = d.normalized.tags := by
  have formed : ∀ tag ∈ d.normalized.tags, tagForm tag = tag ∧ (!tag.isEmpty) = true := by
    intro tag member
    rw [tags_normalized, Text.mem_distinct_iff, List.mem_filter] at member
    obtain ⟨given, _, rfl⟩ := List.mem_map.1 member.1
    exact ⟨tagForm_tagForm given, member.2⟩
  have mapped : d.normalized.tags.map tagForm = d.normalized.tags :=
    (List.map_congr_left fun tag member => (formed tag member).1).trans (List.map_id _)
  rw [tags_normalized, mapped, List.filter_eq_self.2 fun tag member => (formed tag member).2]
  refine Text.distinct_of_nodup ?_
  rw [tags_normalized]
  exact Text.nodup_distinct _

/-- To normalize a definition once is enough. -/
theorem normalized_normalized (d : Definition) : d.normalized.normalized = d.normalized := by
  have tags := d.tags_normalized_normalized
  have parameters := filterMap_filterMap_of_fixed (fun _ _ => Parameter.normalized?_of_normalized) d.parameters
  have options := filterMap_filterMap_of_fixed (fun _ _ => CommandOption.normalized?_of_normalized) d.options
  have commonCommands := filterMap_filterMap_of_fixed (fun _ _ => Text.trimmed?_of_trimmed) d.commonCommands
  unfold normalized at tags ⊢
  dsimp only at tags ⊢
  rw [tags, parameters, options, commonCommands, Text.bind_trimmed?_trimmed?, Text.trim_trim, Text.trim_trim, Text.trim_trim]

end Definition

end ShellTemplate
