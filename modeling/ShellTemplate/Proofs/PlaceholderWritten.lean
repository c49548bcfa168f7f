import ShellTemplate.Placeholder
import ShellTemplate.Proofs.TextRuns

namespace ShellTemplate.Placeholder

/-- The names and kinds that have a written form: a name is an identifier, and a default holds no
closing brace. -/
def IsWritable (name : String) (kind : PlaceholderKind) : Prop :=
  Text.isIdentifier name.toList = true ∧ ∀ value, kind = .defaulted value → '\x7d' ∉ value.toList

/-- The first closing braces of a written form are those at its end. -/
theorem IsWritable.unclosed {name : String} {kind : PlaceholderKind} (writable : IsWritable name kind) :
    '\x7d' ∉ name.toList ++ kindMark kind := by
  rw [List.mem_append, not_or]
  refine ⟨fun member => absurd (Text.isNameChar_of_isIdentifier writable.1 _ member) (by decide), ?_⟩
  cases kind with
  | required => simp [kindMark]
  | optional => simp [kindMark]
  | defaulted value => simpa [kindMark] using writable.2 value rfl

theorem kindMark_stops (kind : PlaceholderKind) (after : List Char) :
    (kindMark kind ++ '\x7d' :: '\x7d' :: after).head?.any Text.isNameChar = false := by
  cases kind <;> simp [kindMark] <;> decide

/-- A placeholder is read back from its written form, whatever follows it. -/
theorem leading?_written {name : String} {kind : PlaceholderKind} (writable : IsWritable name kind)
    (after : List Char) : leading? (written name kind ++ after) = some (name, kind, after) := by
  obtain ⟨identifier, plain⟩ := writable
  have inside := Text.isNameChar_of_isIdentifier identifier
  obtain ⟨c, rest, chars⟩ : ∃ c rest, name.toList = c :: rest := by
    cases chars : name.toList with
    | nil => simp [chars, Text.isIdentifier] at identifier
    | cons c rest => exact ⟨c, rest, rfl⟩
  have alpha : c.isAlpha = true := by
    rw [chars, Text.isIdentifier, Bool.and_eq_true] at identifier
    exact identifier.1
  have insideRest : ∀ d ∈ rest, Text.isNameChar d = true := fun d member =>
    inside d (by rw [chars]; exact List.mem_cons_of_mem c member)
  have taken := Text.takeWhile_run insideRest (kindMark_stops kind after)
  have dropped := Text.dropWhile_run insideRest (kindMark_stops kind after)
  have named : String.ofList (c :: rest) = name := by rw [← chars, String.ofList_toList]
  have whole : written name kind ++ after =
      '\x7b' :: '\x7b' :: c :: (rest ++ (kindMark kind ++ '\x7d' :: '\x7d' :: after)) := by
    simp [written, chars]
  rw [whole]
  simp only [leading?, alpha, if_true, taken, dropped, named]
  cases kind with
  | required => rfl
  | optional => rfl
  | defaulted value =>
    have open_ := Text.bne_of_not_mem (plain value rfl)
    have valueTaken := @Text.takeWhile_run _ _ ('\x7d' :: '\x7d' :: after) open_ (by simp)
    have valueDropped := @Text.dropWhile_run _ _ ('\x7d' :: '\x7d' :: after) open_ (by simp)
    simp only [kindMark, List.cons_append, valueTaken, valueDropped, String.ofList_toList]

theorem isWritable_of_leading? {cs after : List Char} {name : String} {kind : PlaceholderKind}
    (found : leading? cs = some (name, kind, after)) :
    IsWritable name kind ∧ cs = written name kind ++ after := by
  unfold leading? at found
  split at found
  · rename_i c rest
    have whole := @List.takeWhile_append_dropWhile _ Text.isNameChar rest
    have inside : ∀ d ∈ rest.takeWhile Text.isNameChar, Text.isNameChar d = true :=
      List.all_eq_true.1 List.all_takeWhile
    split at found
    · rename_i alpha
      have identifier : Text.isIdentifier (c :: rest.takeWhile Text.isNameChar) = true := by
        rw [Text.isIdentifier, alpha, Bool.true_and, List.all_eq_true]
        exact inside
      split at found
      · rename_i tail run
        simp only [Option.some.injEq, Prod.mk.injEq] at found
        obtain ⟨rfl, rfl, rfl⟩ := found
        rw [run] at whole
        refine ⟨⟨by rwa [String.toList_ofList], by simp⟩, ?_⟩
        simp [written, kindMark, whole]
      · rename_i tail run
        simp only [Option.some.injEq, Prod.mk.injEq] at found
        obtain ⟨rfl, rfl, rfl⟩ := found
        rw [run] at whole
        refine ⟨⟨by rwa [String.toList_ofList], by simp⟩, ?_⟩
        simp [written, kindMark, whole]
      · rename_i tail run
        split at found
        · rename_i stop
          have body := @List.takeWhile_append_dropWhile _ (· != '\x7d') tail
          simp only [Option.some.injEq, Prod.mk.injEq] at found
          obtain ⟨rfl, rfl, rfl⟩ := found
          rw [run] at whole
          rw [stop] at body
          refine ⟨⟨by rwa [String.toList_ofList], ?_⟩, ?_⟩
          · rintro value ⟨⟩ member
            rw [String.toList_ofList] at member
            have differs := List.all_eq_true.1 List.all_takeWhile _ member
            simp at differs
          · simp [written, kindMark, whole, body]
        · simp at found
      · simp at found
    · simp at found
  · simp at found

/-- Reading finds exactly the written forms. -/
theorem leading?_eq_some_iff {cs after : List Char} {name : String} {kind : PlaceholderKind} :
    leading? cs = some (name, kind, after) ↔ IsWritable name kind ∧ cs = written name kind ++ after := by
  constructor
  · exact isWritable_of_leading?
  · rintro ⟨writable, rfl⟩
    exact leading?_written writable after

theorem leading?_of_ne {c : Char} (other : c ≠ '\x7b') (rest : List Char) : leading? (c :: rest) = none := by
  cases found : leading? (c :: rest) with
  | none => rfl
  | some result =>
    obtain ⟨name, kind, after⟩ := result
    obtain ⟨_, whole⟩ := leading?_eq_some_iff.1 found
    simp only [written, List.cons_append, List.cons.injEq] at whole
    exact absurd whole.1 other

theorem leading?_append {cs after : List Char} {name : String} {kind : PlaceholderKind}
    (found : leading? cs = some (name, kind, after)) (back : List Char) :
    leading? (cs ++ back) = some (name, kind, after ++ back) := by
  obtain ⟨writable, rfl⟩ := leading?_eq_some_iff.1 found
  rw [List.append_assoc, leading?_written writable]

theorem width_written_pos (name : String) (kind : PlaceholderKind) : 0 < Text.width (written name kind) := by
  have positive := Char.utf8Size_pos '\x7b'
  rw [written, Text.width_cons]
  omega

/-- One step of the scan where a placeholder begins. -/
theorem scanFrom_of_leading? {position : Nat} {cs after : List Char} {name : String} {kind : PlaceholderKind}
    (found : leading? cs = some (name, kind, after)) :
    scanFrom position cs =
      ⟨name, kind, ⟨position, position + Text.width (written name kind)⟩⟩ ::
        scanFrom (position + Text.width (written name kind)) after := by
  rw [scanFrom]
  split
  · rename_i again
    rw [found] at again
    simp only [Option.some.injEq, Prod.mk.injEq] at again
    obtain ⟨rfl, rfl, rfl⟩ := again
    rfl
  · simp_all

/-- One step of the scan where none begins. -/
theorem scanFrom_of_none {position : Nat} {c : Char} {rest : List Char} (none : leading? (c :: rest) = none) :
    scanFrom position (c :: rest) = scanFrom (position + c.utf8Size) rest := by
  rw [scanFrom]
  split
  · simp_all
  · rfl

theorem scanFrom_nil (position : Nat) : scanFrom position [] = [] := by
  rw [scanFrom]
  rfl

theorem scanFrom_written {name : String} {kind : PlaceholderKind} (writable : IsWritable name kind) (position : Nat) :
    scanFrom position (written name kind) =
      [⟨name, kind, ⟨position, position + Text.width (written name kind)⟩⟩] := by
  have leads := leading?_written writable []
  rw [List.append_nil] at leads
  rw [scanFrom_of_leading? leads, scanFrom_nil]

/-- A placeholder stands inside the characters that were scanned, and takes up some of them. -/
theorem span_of_mem_scanFrom {position : Nat} {cs : List Char} {p : Placeholder}
    (member : p ∈ scanFrom position cs) :
    position ≤ p.span.start ∧ p.span.start < p.span.stop ∧ p.span.stop ≤ position + Text.width cs := by
  fun_induction scanFrom position cs with
  | case1 position cs name kind after found stop ih =>
    obtain ⟨_, rfl⟩ := leading?_eq_some_iff.1 found
    have positive := width_written_pos name kind
    rw [Text.width_append]
    rcases List.mem_cons.1 member with rfl | later
    · dsimp only
      omega
    · have bounds := ih later
      omega
  | case2 => simp at member
  | case3 position c rest _ ih =>
    have bounds := ih member
    rw [Text.width_cons]
    omega

end ShellTemplate.Placeholder
