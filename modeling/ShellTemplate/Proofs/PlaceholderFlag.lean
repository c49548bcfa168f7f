import ShellTemplate.Proofs.PlaceholderWritten
import ShellTemplate.Proofs.TokenTiles

namespace ShellTemplate

namespace Placeholder

/-- The scan finds something exactly if a placeholder is written somewhere. -/
theorem scanFrom_ne_nil_iff {position : Nat} {cs : List Char} :
    scanFrom position cs ≠ [] ↔
      ∃ front name kind back, IsWritable name kind ∧ cs = front ++ (written name kind ++ back) := by
  constructor
  · intro found
    fun_induction scanFrom position cs with
    | case1 position cs name kind after leads =>
      obtain ⟨writable, whole⟩ := leading?_eq_some_iff.1 leads
      exact ⟨[], name, kind, after, writable, whole⟩
    | case2 => exact absurd rfl found
    | case3 position c rest _ ih =>
      obtain ⟨front, name, kind, back, writable, whole⟩ := ih found
      exact ⟨c :: front, name, kind, back, writable, by rw [whole, List.cons_append]⟩
  · rintro ⟨front, name, kind, back, writable, rfl⟩
    induction front generalizing position with
    | nil =>
      rw [List.nil_append, scanFrom_of_leading? (leading?_written writable back)]
      exact List.cons_ne_nil _ _
    | cons c front ih =>
      cases found : leading? (c :: (front ++ (written name kind ++ back))) with
      | none =>
        rw [List.cons_append, scanFrom_of_none found]
        exact ih
      | some result =>
        rw [List.cons_append, scanFrom_of_leading? found]
        exact List.cons_ne_nil _ _

theorem scanFrom_eq_nil_of_no_brace {position : Nat} {cs : List Char} (plain : '\x7b' ∉ cs) :
    scanFrom position cs = [] := by
  refine Classical.not_not.1 fun found => ?_
  obtain ⟨front, name, kind, back, _, rfl⟩ := scanFrom_ne_nil_iff.1 found
  exact plain (by simp [written])

end Placeholder

/-- The second text is the first without some of its backslashes. -/
inductive Unescapes : List Char → List Char → Prop
  | done : Unescapes [] []
  | keep {c cs ds} : Unescapes cs ds → Unescapes (c :: cs) (c :: ds)
  | drop {cs ds} : Unescapes cs ds → Unescapes ('\\' :: cs) ds

namespace Unescapes

theorem refl (cs : List Char) : Unescapes cs cs := by
  induction cs with
  | nil => exact .done
  | cons c cs ih => exact .keep ih

theorem append {cs ds cs' ds' : List Char} (front : Unescapes cs ds) (back : Unescapes cs' ds') :
    Unescapes (cs ++ cs') (ds ++ ds') := by
  induction front with
  | done => exact back
  | keep _ ih => exact .keep ih
  | drop _ ih => exact .drop ih

theorem of_append {front back ds : List Char} (unescapes : Unescapes (front ++ back) ds) :
    ∃ front' back', ds = front' ++ back' ∧ Unescapes front front' ∧ Unescapes back back' := by
  induction front generalizing ds with
  | nil => exact ⟨[], ds, rfl, .done, unescapes⟩
  | cons c front ih =>
    cases unescapes with
    | keep rest =>
      obtain ⟨front', back', rfl, first, second⟩ := ih rest
      exact ⟨c :: front', back', rfl, .keep first, second⟩
    | drop rest =>
      obtain ⟨front', back', rfl, first, second⟩ := ih rest
      exact ⟨front', back', rfl, .drop first, second⟩

theorem eq_of_not_mem {cs ds : List Char} (unescapes : Unescapes cs ds) (plain : '\\' ∉ cs) : ds = cs := by
  induction unescapes with
  | done => rfl
  | keep _ ih => rw [ih fun member => plain (List.mem_cons_of_mem _ member)]
  | drop => exact absurd List.mem_cons_self plain

theorem mem {cs ds : List Char} {c : Char} (unescapes : Unescapes cs ds) (member : c ∈ ds) : c ∈ cs := by
  induction unescapes with
  | done => exact member
  | keep _ ih =>
    rcases List.mem_cons.1 member with rfl | later
    · exact List.mem_cons_self
    · exact List.mem_cons_of_mem _ (ih later)
  | drop _ ih => exact List.mem_cons_of_mem _ (ih member)

/-- A placeholder that loses backslashes loses them from its default, and stays a placeholder. -/
theorem written {name : String} {kind : PlaceholderKind} {ds : List Char}
    (writable : Placeholder.IsWritable name kind) (unescapes : Unescapes (Placeholder.written name kind) ds) :
    ∃ kind', Placeholder.IsWritable name kind' ∧ ds = Placeholder.written name kind' := by
  have nameless : '\\' ∉ name.toList := fun member =>
    absurd (Text.isNameChar_of_isIdentifier writable.1 _ member) (by decide)
  have fixed {run more : List Char} {ds : List Char} (plain : '\\' ∉ run) (unescapes : Unescapes (run ++ more) ds) :
      ∃ ds', ds = run ++ ds' ∧ Unescapes more ds' := by
    obtain ⟨run', more', rfl, first, second⟩ := of_append unescapes
    exact ⟨more', by rw [first.eq_of_not_mem plain], second⟩
  obtain ⟨_, rfl, named⟩ := @fixed ['\x7b', '\x7b'] _ _ (by decide) unescapes
  obtain ⟨_, rfl, marked⟩ := fixed nameless named
  cases kind with
  | required => exact ⟨.required, writable, by rw [marked.eq_of_not_mem (by decide)]; rfl⟩
  | optional => exact ⟨.optional, writable, by rw [marked.eq_of_not_mem (by decide)]; rfl⟩
  | defaulted value =>
    obtain ⟨_, rfl, valued⟩ := @fixed [':'] _ _ (by decide) marked
    obtain ⟨value', braces, rfl, first, second⟩ := of_append valued
    refine ⟨.defaulted (String.ofList value'), ⟨writable.1, ?_⟩, ?_⟩
    · rintro _ ⟨⟩ member
      rw [String.toList_ofList] at member
      exact writable.2 value rfl (first.mem member)
    · rw [second.eq_of_not_mem (by decide)]
      simp [Placeholder.written, Placeholder.kindMark]

theorem scanFrom_ne_nil {cs ds : List Char} {position place : Nat} (unescapes : Unescapes cs ds)
    (found : Placeholder.scanFrom position cs ≠ []) : Placeholder.scanFrom place ds ≠ [] := by
  obtain ⟨front, name, kind, back, writable, rfl⟩ := Placeholder.scanFrom_ne_nil_iff.1 found
  obtain ⟨front', rest, rfl, _, behind⟩ := of_append unescapes
  obtain ⟨run, back', rfl, middle, _⟩ := of_append behind
  obtain ⟨kind', writable', rfl⟩ := middle.written writable
  exact Placeholder.scanFrom_ne_nil_iff.2 ⟨front', name, kind', back', writable', rfl⟩

end Unescapes

theorem Segment.unescapes_unescape (body : List Char) : Unescapes body (unescape body) := by
  fun_induction unescape body with
  | case1 => exact .done
  | case2 c => exact .refl [c]
  | case3 c d rest escapes ih =>
    obtain ⟨isBackslash, _⟩ := Bool.and_eq_true_iff.1 escapes
    cases beq_iff_eq.1 isBackslash
    exact .drop (.keep ih)
  | case4 c d rest _ ih => exact .keep ih

theorem Segment.unescapes_shape (s : Segment) : Unescapes s.source s.shape := by
  cases s with
  | escaped c => exact .drop (.refl [c])
  | doubleQuoted body closed => exact .keep ((unescapes_unescape body).append (.refl _))
  | _ => exact .refl _

theorem Word.unescapes_shape (w : Word) : Unescapes w.source w.shape := by
  induction w with
  | nil => exact .done
  | cons first rest ih => exact first.unescapes_shape.append ih

namespace Token

theorem isPlaceholder_token (start : Nat) (w : Word) :
    (w.token start).flags.isPlaceholder = !(Placeholder.scanFrom 0 w.shape).isEmpty :=
  (Word.classify_cases w.shape w.isUnterminated).2.2.1

/-- A token without the placeholder flag, or an operator, has no placeholder in its text, though the flag
is set by the shape of the word and not by its text. -/
theorem scan_text_eq_nil {command : String} {t : Token} (member : t ∈ scan command)
    (unflagged : t.isSeparator = true ∨ t.flags.isPlaceholder = false) : Placeholder.scan t.text = [] := by
  rcases cases_of_mem_scanFrom member with ⟨start, w, rfl, _⟩ | ⟨start, digits, op, rfl, allDigits, _⟩
  · rcases unflagged with operator | unflagged
    · rw [Word.token_isSeparator] at operator
      contradiction
    · rw [isPlaceholder_token, Bool.not_eq_false', List.isEmpty_iff] at unflagged
      rw [Placeholder.scan, Word.token_text, String.toList_ofList]
      exact Classical.not_not.1 fun found => w.unescapes_shape.scanFrom_ne_nil found unflagged
  · rw [Placeholder.scan, Operator.token_text, String.toList_ofList]
    refine Placeholder.scanFrom_eq_nil_of_no_brace fun brace => ?_
    rcases List.mem_append.1 brace with digit | mark
    · exact absurd (List.all_eq_true.1 allDigits _ digit) (by decide)
    · revert mark
      cases op <;> decide

end Token

end ShellTemplate
