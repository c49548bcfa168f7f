import Mathlib.Data.List.DropRight
import ShellTemplate.Proofs.LowercaseForms

namespace ShellTemplate

theorem dropWhile_rdropWhile_dropWhile {α : Type} (p : α → Bool) (xs : List α) :
    ((xs.dropWhile p).rdropWhile p).dropWhile p = (xs.dropWhile p).rdropWhile p := by
  obtain ⟨gone, split⟩ := List.rdropWhile_prefix p (l := xs.dropWhile p)
  cases kept : (xs.dropWhile p).rdropWhile p with
  | nil => rfl
  | cons x rest =>
    rw [kept, List.cons_append] at split
    have first := List.head?_dropWhile_not p xs
    rw [← split, List.head?_cons] at first
    exact List.dropWhile_cons_of_neg (by simpa using first)

namespace Text

theorem trim_trim (s : String) : trim (trim s) = trim s := by
  let cs := s.toList.dropWhile isBlank
  change String.ofList (((String.ofList (cs.rdropWhile isBlank)).toList.dropWhile isBlank).rdropWhile isBlank) = _
  rw [String.toList_ofList, dropWhile_rdropWhile_dropWhile, List.rdropWhile_idempotent]
  rfl

theorem trim_eq_self_iff {s : String} :
    trim s = s ↔ (∀ c, s.toList.head? = some c → isBlank c = false) ∧
      ∀ c, s.toList.getLast? = some c → isBlank c = false := by
  have front : s.toList.dropWhile isBlank = s.toList ↔ ∀ c, s.toList.head? = some c → isBlank c = false := by
    cases s.toList with
    | nil => simp
    | cons c rest => simp [List.dropWhile_eq_self_iff]
  have back : s.toList.rdropWhile isBlank = s.toList ↔ ∀ c, s.toList.getLast? = some c → isBlank c = false := by
    rw [List.rdropWhile_eq_self_iff]
    constructor
    · intro visible c last
      obtain ⟨filled, rfl⟩ := List.mem_getLast?_eq_getLast last
      exact Bool.eq_false_iff.2 (visible filled)
    · intro visible filled
      exact Bool.eq_false_iff.1 (visible _ (List.getLast?_eq_some_getLast filled))
  rw [← front, ← back]
  change String.ofList ((s.toList.dropWhile isBlank).rdropWhile isBlank) = s ↔ _
  constructor
  · intro same
    have texts := congrArg String.toList same
    rw [String.toList_ofList] at texts
    have begins := dropWhile_rdropWhile_dropWhile isBlank s.toList
    rw [texts] at begins
    rw [begins] at texts
    exact ⟨begins, texts⟩
  · rintro ⟨begins, ends⟩
    rw [begins, ends, String.ofList_toList]

/-- Lowercasing makes no blanks at the ends. -/
theorem trim_lowercase {s : String} (trimmed : trim s = s) : trim (lowercase s) = lowercase s := by
  obtain ⟨begins, ends⟩ := trim_eq_self_iff.1 trimmed
  refine trim_eq_self_iff.2 ⟨fun c first => ?_, fun c last => ?_⟩
  · rw [lowercase, String.toList_ofList] at first
    exact head?_lowerFrom begins first
  · rw [lowercase, String.toList_ofList] at last
    exact getLast?_lowerFrom ends last

theorem trimmed?_eq_some_iff {s t : String} : trimmed? s = some t ↔ trim s = t ∧ t ≠ "" := by
  unfold trimmed?
  dsimp only
  by_cases empty : (trim s).isEmpty
  · rw [if_pos empty]
    rw [String.isEmpty_iff] at empty
    simp [empty, eq_comm]
  · rw [if_neg empty]
    rw [String.isEmpty_iff] at empty
    simp
    rintro rfl
    exact empty

theorem trimmed?_of_trimmed {s t : String} (trimmed : trimmed? s = some t) : trimmed? t = some t := by
  rw [trimmed?_eq_some_iff] at trimmed ⊢
  obtain ⟨rfl, filled⟩ := trimmed
  exact ⟨trim_trim s, filled⟩

end Text

end ShellTemplate
