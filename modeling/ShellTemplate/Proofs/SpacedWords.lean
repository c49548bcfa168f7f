import Mathlib.Data.List.Forall2
import ShellTemplate.Proofs.EscapeReading
import ShellTemplate.Proofs.PlaceholderWritten
import ShellTemplate.Proofs.SegmentGrammar
import ShellTemplate.Proofs.TokenReread

namespace ShellTemplate

namespace Segment

/-- Between double quotes, what is written for a value stands for it. -/
theorem unquotes_escapeDouble_append {body inner : List Char} (unquotes : Unquotes true body inner) (value : List Char) :
    Unquotes true (QuoteContext.escapeDouble value ++ body) (value ++ inner) := by
  induction value with
  | nil => exact unquotes
  | cons c value ih =>
    have split : QuoteContext.escapeDouble (c :: value) =
        (if isEscapable c then ['\\', c] else [c]) ++ QuoteContext.escapeDouble value := List.flatMap_cons
    rw [split]
    by_cases escapes : isEscapable c = true
    · rw [if_pos escapes]
      exact .escape escapes ih
    · have plain : c ≠ '"' ∧ c ≠ '\\' := by
        constructor <;> rintro rfl <;> exact escapes (by decide)
      rw [if_neg escapes]
      exact .char plain.1 (fun same => absurd same plain.2) ih

theorem unquotes_escapeDouble (value : List Char) : Unquotes true (QuoteContext.escapeDouble value) value := by
  simpa using unquotes_escapeDouble_append .nil value

theorem bracedRun_append {front : List Char} (plain : '\x7d' ∉ front) (rest : List Char) :
    bracedRun (front ++ '\x7d' :: '\x7d' :: rest) = (front ++ ['\x7d', '\x7d'], rest) := by
  refine bracedRun_of_first (fun closes => ?_) rest
  have twice := closes.sublist.count_le '\x7d'
  simp [List.count_eq_zero_of_not_mem plain] at twice

end Segment

namespace Word

/-- The characters are read as the word where a blank or the end follows. -/
structure ReadsAs (cs : List Char) (w : Word) : Prop where
  goesOn : stopsAt cs = false
  read_append : ∀ rest : List Char, rest.head?.all Text.isBlank = true → Word.read (cs ++ rest) = (w, rest)

/-- A character that stands for itself in a word. -/
def isBare (c : Char) : Bool :=
  !Text.isBlank c && !Operator.isMark c && !(['\'', '"', '\\', '\x7b', '\x7d'].contains c)

theorem stopsAt_of_ended {rest : List Char} (ended : rest.head?.all Text.isBlank = true) : stopsAt rest = true := by
  cases rest with
  | nil => rfl
  | cons c rest => exact Bool.or_eq_true_iff.2 (Or.inl ended)

theorem leading?_of_ended {rest : List Char} (ended : rest.head?.all Text.isBlank = true) :
    Operator.leading? rest = none := by
  cases rest with
  | nil => rfl
  | cons c rest => exact Token.leading?_of_blank ended

theorem stopsAt_append {cs : List Char} (goesOn : stopsAt cs = false) (rest : List Char) :
    stopsAt (cs ++ rest) = false := by
  cases cs with
  | nil => contradiction
  | cons c cs => exact goesOn

section

variable {cs : List Char}

theorem isBare_iff {c : Char} : isBare c = true ↔
    Text.isBlank c = false ∧ Operator.isMark c = false ∧ c ≠ '\'' ∧ c ≠ '"' ∧ c ≠ '\\' ∧ c ≠ '\x7b' ∧ c ≠ '\x7d' := by
  simp [isBare, and_assoc]

theorem read_bare {c : Char} (bare : isBare c = true) (rest : List Char) : Segment.read c rest = (.plain c, rest) := by
  obtain ⟨_, _, single, double, backslash, brace, _⟩ := isBare_iff.1 bare
  simp [Segment.read, single, double, backslash, brace]

theorem readsAs_bare (filled : cs ≠ []) (bare : ∀ c ∈ cs, isBare c = true) : ReadsAs cs (cs.map .plain) := by
  have stands {c : Char} (member : c ∈ cs) (rest : List Char) : stopsAt (c :: rest) = false := by
    obtain ⟨blank, mark, _⟩ := isBare_iff.1 (bare c member)
    simp [stopsAt, blank, mark]
  refine ⟨?_, fun rest ended => ?_⟩
  · cases cs with
    | nil => contradiction
    | cons c cs => exact stands List.mem_cons_self cs
  · clear filled
    induction cs with
    | nil => exact read_of_stopsAt (stopsAt_of_ended ended)
    | cons c cs ih =>
      have tail := ih (fun d member => bare d (List.mem_cons_of_mem c member))
        fun member => stands (List.mem_cons_of_mem c member)
      rw [List.cons_append, read_cons (stands List.mem_cons_self _), read_bare (bare c List.mem_cons_self), tail]
      rfl

theorem readsAs_segment {c : Char} {rest : List Char} {g : Segment} (goesOn : stopsAt (c :: rest) = false)
    (read : ∀ after, Segment.read c (rest ++ after) = (g, after)) : ReadsAs (c :: rest) [g] := by
  refine ⟨goesOn, fun after ended => ?_⟩
  have still : stopsAt (c :: (rest ++ after)) = false := stopsAt_append goesOn after
  rw [List.cons_append, read_cons still, read after, read_of_stopsAt (stopsAt_of_ended ended)]

theorem readsAs_doubleQuoted (cs : List Char) :
    ReadsAs ('"' :: (QuoteContext.escapeDouble cs ++ ['"'])) [.doubleQuoted (QuoteContext.escapeDouble cs) true] := by
  refine readsAs_segment rfl fun after => ?_
  have body := (Segment.unquotes_escapeDouble cs).doubleBody_eq after fun isOpen => absurd isOpen (by decide)
  rw [List.append_assoc, Segment.read_double]
  simp only [Segment.closing, if_true] at body
  rw [body]

theorem isBare_of_ordinary {c : Char} (blank : Text.isBlank c = false) (ordinary : QuoteContext.isSpecial c = false) :
    isBare c = true := by
  have differs {d : Char} (special : QuoteContext.isSpecial d = true) : c ≠ d :=
    QuoteContext.ne_of_not_special ordinary special
  refine isBare_iff.2 ⟨blank, ?_, differs (by decide), differs (by decide), differs (by decide), differs (by decide),
    differs (by decide)⟩
  rw [← Bool.not_eq_true, Operator.isMark_iff]
  rintro (rfl | rfl | rfl | rfl | rfl) <;> exact absurd rfl (differs (by decide))

theorem isBare_of_isPlain (plain : QuoteContext.isPlain cs = true) : ∀ c ∈ cs, isBare c = true := by
  intro c member
  have unmarked := List.all_eq_true.1 plain c member
  simp only [Bool.and_eq_true, Bool.not_eq_true'] at unmarked
  exact isBare_of_ordinary unmarked.1 unmarked.2

/-- A value is read back from what is written for it outside of quotes. -/
theorem readsAs_escape {value : String} (filled : value ≠ "") :
    ∃ w, ReadsAs (QuoteContext.unquoted.escape value).toList w ∧ w.value = value.toList := by
  cases plain : QuoteContext.isPlain value.toList with
  | true =>
    refine ⟨value.toList.map .plain, ?_, value_map_plain value.toList⟩
    rw [QuoteContext.escape_of_isPlain .unquoted plain]
    exact readsAs_bare (by simpa using filled) (isBare_of_isPlain plain)
  | false =>
    refine ⟨_, QuoteContext.escape_unquoted_of_not_isPlain plain ▸ readsAs_doubleQuoted value.toList, ?_⟩
    simp [Word.value, Segment.value, ← (Segment.unquotes_escapeDouble value.toList).value_eq]

theorem readsAs_written {name : String} {kind : PlaceholderKind} (writable : Placeholder.IsWritable name kind) :
    ReadsAs (Placeholder.written name kind)
      [.braced (name.toList ++ (Placeholder.kindMark kind ++ ['\x7d', '\x7d']))] := by
  refine readsAs_segment rfl fun after => ?_
  have run := Segment.bracedRun_append writable.unclosed after
  simp only [List.append_assoc, List.cons_append, List.nil_append] at run ⊢
  simp [Segment.read, run]

end

end Word

namespace Token

theorem scanFrom_of_readsAs {position : Nat} {cs rest : List Char} {w : Word} (reads : Word.ReadsAs cs w)
    (ended : rest.head?.all Text.isBlank = true) :
    scanFrom position (cs ++ rest) = w.token position :: scanFrom (position + Text.width w.source) rest := by
  have whole := reads.read_append rest ended
  have scans := @Scans.word position (cs ++ rest) (scanFrom (position + Text.width w.source) rest)
    (Word.stopsAt_append reads.goesOn rest)
  rw [whole] at scans
  exact (scans (Word.leading?_of_ended ended) (scans_scanFrom _ _)).eq_scanFrom.symm

theorem scanFrom_of_blank {position : Nat} {c : Char} {rest : List Char} (blank : Text.isBlank c = true) :
    scanFrom position (c :: rest) = scanFrom (position + c.utf8Size) rest :=
  (Scans.blank blank (scans_scanFrom _ _)).eq_scanFrom.symm

theorem scanFrom_of_blanks {gap : List Char} (blank : gap.all Text.isBlank = true) (position : Nat) (rest : List Char) :
    scanFrom position (gap ++ rest) = scanFrom (position + Text.width gap) rest := by
  induction gap generalizing position with
  | nil => rfl
  | cons c gap ih =>
    rw [List.all_cons, Bool.and_eq_true] at blank
    rw [List.cons_append, scanFrom_of_blank blank.1, ih blank.2, Text.width_cons, Nat.add_assoc]

/-- What the command gets of a token, and whether it is an operator. -/
def meaning (t : Token) : Bool × String :=
  (t.isSeparator, t.value)

theorem meaning_wordToken (position : Nat) (w : Word) : (w.token position).meaning = (false, String.ofList w.value) := by
  rw [meaning, Word.token_isSeparator, Word.token_value]

end Token

namespace Word

/-- The text is read as one word with the value. -/
structure Carries (text value : String) : Prop where
  filled : value ≠ ""
  reads : ∃ w, ReadsAs text.toList w ∧ w.value = value.toList

/-- The text is read as one word with the value, and nothing is written for an empty value. -/
def Writes (text value : String) : Prop :=
  text = "" ∧ value = "" ∨ Carries text value

theorem Carries.text_ne_empty {text value : String} (carries : Carries text value) : text ≠ "" := by
  obtain ⟨_, w, reads, _⟩ := carries
  rintro rfl
  have goesOn := reads.goesOn
  contradiction

theorem writes_escape (value : String) : Writes (QuoteContext.unquoted.escape value) value := by
  by_cases filled : value = ""
  · subst filled
    exact Or.inl ⟨rfl, rfl⟩
  · exact Or.inr ⟨filled, readsAs_escape filled⟩

theorem filter_writes {texts values : List String} (writes : List.Forall₂ Writes texts values) :
    List.Forall₂ Carries (texts.filter fun text => !text.isEmpty) (values.filter fun value => !value.isEmpty) := by
  induction writes with
  | nil => exact .nil
  | cons first _ ih =>
    rcases first with ⟨rfl, rfl⟩ | carries
    · exact ih
    · rw [List.filter_cons_of_pos (by simpa using carries.text_ne_empty),
        List.filter_cons_of_pos (by simpa using carries.filled)]
      exact .cons carries ih

theorem joinAfter_word (previous text : String) (texts : List String) :
    (Piece.joinAfter (Build.word previous) ((text :: texts).map Build.word)).toList =
      ' ' :: (text.toList ++ (Piece.joinAfter (Build.word text) (texts.map Build.word)).toList) := by
  have spaced : ((Build.word previous).spaceAfter && (Build.word text).spaceBefore) = true := rfl
  rw [List.map_cons, Piece.joinAfter, if_pos spaced, String.toList_append, String.toList_append, List.append_assoc]
  rfl

theorem ended_joinAfter (previous : String) (texts : List String) :
    (Piece.joinAfter (Build.word previous) (texts.map Build.word)).toList.head?.all Text.isBlank = true := by
  cases texts with
  | nil => rfl
  | cons text texts => rw [joinAfter_word]; rfl

theorem meaning_scanFrom_joinAfter {texts values : List String} (carries : List.Forall₂ Carries texts values)
    (position : Nat) (previous : String) :
    (Token.scanFrom position (Piece.joinAfter (Build.word previous) (texts.map Build.word)).toList).map Token.meaning =
      values.map (false, ·) := by
  induction carries generalizing position previous with
  | nil => simp [Piece.joinAfter, Token.scanFrom_nil]
  | @cons text value texts values first _ ih =>
    obtain ⟨_, w, reads, same⟩ := first
    rw [joinAfter_word, Token.scanFrom_of_blank (by decide), Token.scanFrom_of_readsAs reads (ended_joinAfter text texts),
      List.map_cons, List.map_cons, ih, Token.meaning_wordToken, same, String.ofList_toList]

/-- A line of written values is read as these values, the empty ones left out. -/
theorem meaning_scan_join {texts values : List String} (writes : List.Forall₂ Writes texts values) :
    (Token.scan (Piece.join (texts.map Build.word))).map Token.meaning =
      (values.filter fun value => !value.isEmpty).map (false, ·) := by
  have kept : (texts.map Build.word).filter (fun p => !p.text.isEmpty) =
      (texts.filter fun text => !text.isEmpty).map Build.word := List.filter_map
  have carries := filter_writes writes
  rw [Piece.join, kept, Token.scan]
  generalize texts.filter (fun text => !text.isEmpty) = texts at carries
  generalize values.filter (fun value => !value.isEmpty) = values at carries
  cases carries with
  | nil => exact congrArg _ (Token.scanFrom_nil 0)
  | @cons text value texts values first rest =>
    obtain ⟨_, w, reads, same⟩ := first
    rw [List.map_cons, List.map_cons]
    change (Token.scanFrom 0 (text ++ Piece.joinAfter (Build.word text) (texts.map Build.word)).toList).map _ = _
    rw [String.toList_append, Token.scanFrom_of_readsAs reads (ended_joinAfter text texts), List.map_cons,
      meaning_scanFrom_joinAfter rest, Token.meaning_wordToken, same, String.ofList_toList]

end Word

end ShellTemplate
