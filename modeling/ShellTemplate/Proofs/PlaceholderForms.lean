import ShellTemplate.Proofs.PlaceholderWritten
import ShellTemplate.Proofs.TokenPlaces

namespace ShellTemplate.Placeholder

/-- How a template spells a placeholder. -/
def form (name : String) : PlaceholderKind → String
  | .required => "\x7b\x7b" ++ name ++ "\x7d\x7d"
  | .optional => "\x7b\x7b" ++ name ++ "?\x7d\x7d"
  | .defaulted value => "\x7b\x7b" ++ name ++ ":" ++ value ++ "\x7d\x7d"

/-- The text spells the placeholder at the place where it stands. -/
structure StandsIn (text : String) (p : Placeholder) : Prop where
  writable : IsWritable p.name p.kind
  slice : ∃ before after, text = before ++ form p.name p.kind ++ after ∧
    p.span = ⟨before.utf8ByteSize, (before ++ form p.name p.kind).utf8ByteSize⟩

theorem toList_form (name : String) (kind : PlaceholderKind) : (form name kind).toList = written name kind := by
  cases kind <;> simp [form, written, kindMark]

theorem utf8ByteSize_form (name : String) (kind : PlaceholderKind) :
    (form name kind).utf8ByteSize = Text.width (written name kind) := by
  rw [← Text.width_toList, toList_form]

/-- What is found is written at its place in the characters. -/
theorem exists_slice_of_mem_scanFrom {position : Nat} {cs : List Char} {p : Placeholder}
    (member : p ∈ scanFrom position cs) :
    IsWritable p.name p.kind ∧ ∃ before after, cs = before ++ (written p.name p.kind ++ after) ∧
      p.span = ⟨position + Text.width before,
        position + Text.width before + Text.width (written p.name p.kind)⟩ := by
  fun_induction scanFrom position cs with
  | case1 position cs name kind after found stop ih =>
    obtain ⟨writable, whole⟩ := leading?_eq_some_iff.1 found
    rcases List.mem_cons.1 member with rfl | later
    · exact ⟨writable, [], after, whole, rfl⟩
    · obtain ⟨inner, before, behind, split, span⟩ := ih later
      refine ⟨inner, written name kind ++ before, behind, ?_, ?_⟩
      · rw [whole, split, List.append_assoc]
      · rw [span, Text.width_append, ← Nat.add_assoc]
  | case2 => exact absurd member List.not_mem_nil
  | case3 position c rest _ ih =>
    obtain ⟨inner, before, behind, split, span⟩ := ih member
    refine ⟨inner, c :: before, behind, ?_, ?_⟩
    · rw [split, List.cons_append]
    · rw [span, Text.width_cons, ← Nat.add_assoc]

theorem standsIn_of_mem_scan {text : String} {p : Placeholder} (member : p ∈ scan text) : StandsIn text p := by
  obtain ⟨writable, before, after, whole, span⟩ := exists_slice_of_mem_scanFrom member
  refine ⟨writable, String.ofList before, String.ofList after, ?_, ?_⟩
  · rw [← String.toList_inj, whole]
    simp [toList_form]
  · rw [span, String.utf8ByteSize_append, utf8ByteSize_form, ← Text.width_toList, String.toList_ofList, Nat.zero_add]

/-- Each placeholder ends before the next one begins. -/
theorem apart_scanFrom (position : Nat) (cs : List Char) :
    (scanFrom position cs).Pairwise fun p q => p.span.stop ≤ q.span.start := by
  fun_induction scanFrom position cs with
  | case1 position cs name kind after found stop ih =>
    exact List.pairwise_cons.2 ⟨fun q later => (span_of_mem_scanFrom later).1, ih⟩
  | case2 => exact .nil
  | case3 position c rest _ ih => exact ih

theorem scan_form {name : String} {kind : PlaceholderKind} (writable : IsWritable name kind) :
    scan (form name kind) = [⟨name, kind, ⟨0, (form name kind).utf8ByteSize⟩⟩] := by
  rw [scan, toList_form, scanFrom_written writable, Nat.zero_add, utf8ByteSize_form]

/-- A text that is one placeholder from its first byte to its last spells it. -/
theorem StandsIn.text_eq_form {text : String} {p : Placeholder} (stands : StandsIn text p)
    (whole : p.span = ⟨0, text.utf8ByteSize⟩) : text = form p.name p.kind := by
  obtain ⟨before, after, rfl, span⟩ := stands.slice
  obtain ⟨start, stop⟩ := Span.mk.inj (whole.symm.trans span)
  rw [String.utf8ByteSize_append] at stop
  have front : before = "" := String.utf8ByteSize_eq_zero_iff.1 start.symm
  have back : after = "" := String.utf8ByteSize_eq_zero_iff.1 (by omega)
  rw [front, back, String.empty_append, String.append_empty]

theorem ofText?_eq_some_iff {text : String} {p : Placeholder} :
    ofText? text = some p ↔
      IsWritable p.name p.kind ∧ text = form p.name p.kind ∧ p.span = ⟨0, text.utf8ByteSize⟩ := by
  constructor
  · intro read
    unfold ofText? at read
    split at read
    · rename_i q found
      split at read
      · rename_i whole
        cases Option.some.inj read
        have stands : StandsIn text p := standsIn_of_mem_scan (found ▸ List.mem_singleton_self p)
        exact ⟨stands.writable, stands.text_eq_form whole, whole⟩
      · contradiction
    · contradiction
  · rintro ⟨writable, rfl, span⟩
    rw [ofText?, scan_form writable, ← span]
    exact if_pos rfl

theorem ofText?_written {name : String} {kind : PlaceholderKind} (writable : IsWritable name kind) :
    ofText? (String.ofList (written name kind)) = some ⟨name, kind, ⟨0, (form name kind).utf8ByteSize⟩⟩ := by
  have same : String.ofList (written name kind) = form name kind := by rw [← toList_form, String.ofList_toList]
  rw [same]
  exact ofText?_eq_some_iff.2 ⟨writable, rfl, rfl⟩

/-- A text is read as one placeholder exactly if it spells it, and then the whole text is its place. In any
text, the placeholders that are found stand one behind the other, and the text spells each of them at its place. -/
theorem forms_read_exactly :
    (∀ text p, ofText? text = some p ↔
      IsWritable p.name p.kind ∧ text = form p.name p.kind ∧ p.span = ⟨0, text.utf8ByteSize⟩) ∧
    ∀ text, (scan text).Pairwise (fun p q => p.span.stop ≤ q.span.start) ∧
      ∀ p ∈ scan text, p.span.start < p.span.stop ∧ StandsIn text p := by
  refine ⟨fun text p => ofText?_eq_some_iff, fun text => ⟨apart_scanFrom 0 text.toList, fun p member => ?_⟩⟩
  exact ⟨(span_of_mem_scanFrom member).2.1, standsIn_of_mem_scan member⟩

end ShellTemplate.Placeholder
