import ShellTemplate.Proofs.PlaceholderFlag
import ShellTemplate.Proofs.SpacedWords

namespace ShellTemplate

namespace Placeholder

/-- Characters without an opening brace are passed over. -/
theorem scanFrom_append_of_no_brace {front : List Char} (plain : '\x7b' ∉ front) (position : Nat) (rest : List Char) :
    scanFrom position (front ++ rest) = scanFrom (position + Text.width front) rest := by
  induction front generalizing position with
  | nil => rfl
  | cons c front ih =>
    have other : c ≠ '\x7b' := fun same => plain (same ▸ List.mem_cons_self)
    rw [List.cons_append, scanFrom_of_none (leading?_of_ne other _),
      ih fun member => plain (List.mem_cons_of_mem c member), Text.width_cons, Nat.add_assoc]

end Placeholder

/-- A word of a template that is one placeholder or has none. -/
inductive TemplateWord where
  | literal (text : String)
  | placeholder (name : String) (kind : PlaceholderKind)
deriving DecidableEq, Repr

namespace TemplateWord

def source : TemplateWord → List Char
  | .literal text => text.toList
  | .placeholder name kind => Placeholder.written name kind

/-- The characters of a literal stand for themselves, and a placeholder is well formed. -/
def IsWellFormed : TemplateWord → Prop
  | .literal text => text ≠ "" ∧ ∀ c ∈ text.toList, Word.isBare c = true
  | .placeholder name kind => Placeholder.IsWritable name kind

def name? : TemplateWord → Option String
  | .literal _ => none
  | .placeholder name _ => some name

/-- How the word is read. -/
def word : TemplateWord → Word
  | .literal text => text.toList.map .plain
  | .placeholder name kind => [.braced (name.toList ++ (Placeholder.kindMark kind ++ ['\x7d', '\x7d']))]

/-- The characters are the words with blanks between them, and maybe before and after them. -/
inductive LaidOut : List Char → List TemplateWord → Prop
  | done {gap} : gap.all Text.isBlank = true → LaidOut gap []
  | word {gap w rest ws} : gap.all Text.isBlank = true → IsWellFormed w →
      rest.head?.all Text.isBlank = true → LaidOut rest ws → LaidOut (gap ++ (w.source ++ rest)) (w :: ws)

section

variable {w : TemplateWord}

theorem readsAs_source (wellFormed : w.IsWellFormed) : Word.ReadsAs w.source w.word := by
  cases w with
  | literal text => exact Word.readsAs_bare (by simpa [source] using wellFormed.1) wellFormed.2
  | placeholder name kind => exact Word.readsAs_written wellFormed

theorem source_word (w : TemplateWord) : w.word.source = w.source := by
  cases w with
  | literal text => exact Word.source_map_plain text.toList
  | placeholder name kind => exact List.append_nil _

theorem shape_word (w : TemplateWord) : w.word.shape = w.source := by
  cases w with
  | literal text => exact Word.shape_map_plain text.toList
  | placeholder name kind => exact List.append_nil _

theorem text_token (w : TemplateWord) (start : Nat) : (w.word.token start).text = String.ofList w.source := by
  rw [Word.token_text, source_word]

theorem scanFrom_source (wellFormed : w.IsWellFormed) (position : Nat) (rest : List Char) :
    (Placeholder.scanFrom position (w.source ++ rest)).map (·.name) =
      w.name?.toList ++ (Placeholder.scanFrom (position + Text.width w.source) rest).map (·.name) := by
  cases w with
  | literal text =>
    have plain : '\x7b' ∉ text.toList := fun member => absurd (wellFormed.2 _ member) (by decide)
    exact congrArg _ (Placeholder.scanFrom_append_of_no_brace plain position rest)
  | placeholder name kind =>
    exact congrArg _ (Placeholder.scanFrom_of_leading? (Placeholder.leading?_written wellFormed rest))

/-- Only the word of a placeholder is flagged. -/
theorem isPlaceholder_token (wellFormed : w.IsWellFormed) (start : Nat) :
    (w.word.token start).flags.isPlaceholder = w.name?.isSome := by
  have names := scanFrom_source wellFormed 0 []
  rw [List.append_nil, Placeholder.scanFrom_nil, List.map_nil, List.append_nil] at names
  rw [Token.isPlaceholder_token, shape_word, ← List.isEmpty_map, names]
  cases w <;> rfl

end

theorem no_brace_of_blank {gap : List Char} (blank : gap.all Text.isBlank = true) : '\x7b' ∉ gap :=
  fun member => absurd (List.all_eq_true.1 blank _ member) (by decide)

/-- The template is read as its words. -/
theorem LaidOut.tokens {cs : List Char} {ws : List TemplateWord} (laidOut : LaidOut cs ws) (position : Nat) :
    List.Forall₂ (fun t w => IsWellFormed w ∧ ∃ start, t = w.word.token start) (Token.scanFrom position cs) ws := by
  induction laidOut generalizing position with
  | @done gap blank =>
    have read := Token.scanFrom_of_blanks blank position []
    rw [List.append_nil, Token.scanFrom_nil] at read
    rw [read]
    exact .nil
  | @word gap w rest ws blank wellFormed ended _ ih =>
    rw [Token.scanFrom_of_blanks blank, Token.scanFrom_of_readsAs (readsAs_source wellFormed) ended]
    exact .cons ⟨wellFormed, _, rfl⟩ (ih _)

theorem LaidOut.plain {cs : List Char} {ws : List TemplateWord} (laidOut : LaidOut cs ws) (position : Nat) :
    ∀ t ∈ Token.scanFrom position cs, t.isSeparator = false := by
  have tokens := laidOut.tokens position
  generalize Token.scanFrom position cs = ts at tokens
  clear laidOut
  induction tokens with
  | nil => simp
  | cons first _ ih =>
    obtain ⟨_, start, rfl⟩ := first
    exact List.forall_mem_cons.2 ⟨Word.token_isSeparator start _, ih⟩

/-- The placeholders of the template are those that are words. -/
theorem LaidOut.names {cs : List Char} {ws : List TemplateWord} (laidOut : LaidOut cs ws) (position : Nat) :
    (Placeholder.scanFrom position cs).map (·.name) = ws.filterMap name? := by
  induction laidOut generalizing position with
  | done blank => rw [Placeholder.scanFrom_eq_nil_of_no_brace (no_brace_of_blank blank)]; rfl
  | @word gap w rest ws blank wellFormed _ _ ih =>
    rw [Placeholder.scanFrom_append_of_no_brace (no_brace_of_blank blank), scanFrom_source wellFormed, ih]
    cases w <;> rfl

end TemplateWord

end ShellTemplate
