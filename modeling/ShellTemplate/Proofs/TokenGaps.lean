import ShellTemplate.Proofs.RenderRoundTrip

namespace ShellTemplate

theorem Operator.head?_symbol (op : Operator) : op.symbol.toList.head?.any isMark = true := by
  cases op <;> decide

theorem Operator.getLast?_symbol (op : Operator) : op.symbol.toList.getLast?.any isMark = true := by
  cases op <;> decide

namespace Token

def beginsWithMark (t : Token) : Bool :=
  t.text.toList.head?.any Operator.isMark

def endsWithMark (t : Token) : Bool :=
  t.text.toList.getLast?.any Operator.isMark

/-- A text that is the tokens in their order with blanks between them, wherever it stands. It may begin with
a token at once if an operator ended before it (`free`) or if an operator begins there. -/
inductive Gapped : Bool → List Char → List Token → Prop
  | done {free gap} : gap.all Text.isBlank = true → Gapped free gap []
  | token {free gap t rest ts} : gap.all Text.isBlank = true →
      (gap = [] → free = true ∨ t.beginsWithMark = true) → Gapped t.endsWithMark rest ts →
      Gapped free (gap ++ (t.text.toList ++ rest)) (t :: ts)

/-- Only the texts of the tokens count. -/
theorem Gapped.unplaced {free : Bool} {cs : List Char} {ts : List Token} (gapped : Gapped free cs ts) :
    Gapped free cs (ts.map Token.unplaced) := by
  induction gapped with
  | done blank => exact .done blank
  | @token _ _ t _ _ blank start _ ih => exact @Gapped.token _ _ t.unplaced _ _ blank start ih

theorem beginsWithMark_operatorToken (position : Nat) (op : Operator) :
    (op.token position []).beginsWithMark = true := by
  simpa [beginsWithMark] using op.head?_symbol

theorem endsWithMark_operatorToken (position : Nat) (digits : List Char) (op : Operator) :
    (op.token position digits).endsWithMark = true := by
  have last := op.getLast?_symbol
  rw [endsWithMark, Operator.token_text, String.toList_ofList, List.getLast?_append]
  cases final : op.symbol.toList.getLast? with
  | none => rw [final] at last; contradiction
  | some c => rwa [final] at last

theorem beginsWithMark_angled {cs after : List Char} {w : Word} (found : Word.angled? cs = some (w, after))
    (position : Nat) : (w.token position).beginsWithMark = true := by
  obtain ⟨name, dots, _, _, _, _, rfl⟩ := Word.angled?_eq_some_iff.1 found
  rw [beginsWithMark, Word.token_text, String.toList_ofList, Word.source_map_plain]
  rfl

/-- Every token begins with a character that is no blank. -/
theorem exists_text_eq_cons {position : Nat} {cs : List Char} {t : Token} (member : t ∈ scanFrom position cs) :
    ∃ c rest, t.text.toList = c :: rest ∧ Text.isBlank c = false := by
  rcases cases_of_mem_scanFrom member with ⟨start, w, rfl, ⟨rest, goesOn, rfl⟩ | ⟨rest, after, found⟩⟩ |
    ⟨start, digits, op, rfl, allDigits, _⟩
  · have head := @Word.head?_source_append rest [] goesOn
    obtain ⟨c, more, rfl, solid, _⟩ := goesOn_cons goesOn
    rw [List.append_nil, List.head?_cons] at head
    obtain ⟨tail, source⟩ := List.head?_eq_some_iff.1 head
    exact ⟨c, tail, by rw [Word.token_text, String.toList_ofList, source], by simpa using solid⟩
  · obtain ⟨name, dots, _, _, _, _, rfl⟩ := Word.angled?_eq_some_iff.1 found
    exact ⟨'<', _, by rw [Word.token_text, String.toList_ofList, Word.source_map_plain], by decide⟩
  · rw [Operator.token_text, String.toList_ofList]
    cases digits with
    | nil => cases op <;> exact ⟨_, _, rfl, by decide⟩
    | cons c more =>
      have digit : c.isDigit = true := (Bool.and_eq_true_iff.1 allDigits).1
      refine ⟨c, _, rfl, Text.not_blank_of_isNameChar ?_⟩
      simp [Text.isNameChar, Char.isAlphanum, digit]

section

variable {position : Nat} {cs : List Char} {ts : List Token}

/-- A text is its own tokens with the blanks that it has between them. -/
theorem Scans.gapped (scans : Scans position cs ts) {free : Bool} {gap : List Char}
    (blank : gap.all Text.isBlank = true) (start : gap = [] → free = true ∨ Word.stopsAt cs = true) :
    Gapped free (gap ++ cs) ts := by
  -- `gap` gathers the blanks before the next token; behind a token it is empty again
  have none : ([] : List Char).all Text.isBlank = true := rfl
  induction scans generalizing free gap with
  | done => simpa using Gapped.done blank
  | @blank position c rest ts isBlank _ ih =>
    rw [List.append_cons]
    exact ih (by simp [blank, isBlank]) (by simp)
  | @angled position cs w after ts found _ ih =>
    obtain ⟨_, _, _, _, ended, _, _⟩ := Word.angled?_eq_some_iff.1 found
    have whole := Word.source_append_of_angled? found
    have stops : Word.stopsAt after = true := by
      cases after with
      | nil => rfl
      | cons c more => exact Bool.or_eq_true_iff.2 (Or.inl ended)
    have token := @Gapped.token free gap (w.token position) _ _ blank
      (fun _ => Or.inr (beginsWithMark_angled found position)) (ih none fun _ => Or.inr stops)
    rwa [Word.token_text, String.toList_ofList, List.nil_append, whole] at token
  | @operator position cs op ts _ found _ ih =>
    have token := @Gapped.token free gap (op.token position []) _ _ blank
      (fun _ => Or.inr (beginsWithMark_operatorToken _ op)) (ih none fun _ => Or.inl (endsWithMark_operatorToken _ _ op))
    rwa [Operator.token_text, String.toList_ofList, List.nil_append, List.nil_append,
      Operator.symbol_append_skip found] at token
  | @descriptor position cs op ts goesOn found _ _ _ ih =>
    have token := @Gapped.token free gap (op.token position (Word.read cs).1.source) _ _ blank
      (fun empty => (start empty).imp_right fun stops => by rw [goesOn] at stops; contradiction)
      (ih none fun _ => Or.inl (endsWithMark_operatorToken _ _ op))
    rwa [Operator.token_text, String.toList_ofList, List.nil_append, List.append_assoc,
      Operator.symbol_append_skip found, Word.source_read] at token
  | @attached position middle cs op ts goesOn found _ _ _ ih =>
    have operator := @Gapped.token ((Word.read cs).1.token position).endsWithMark [] (op.token middle []) _ _ none
      (fun _ => Or.inr (beginsWithMark_operatorToken _ op))
      (ih none fun _ => Or.inl (endsWithMark_operatorToken _ _ op))
    have token := @Gapped.token free gap ((Word.read cs).1.token position) _ _ blank
      (fun empty => (start empty).imp_right fun stops => by rw [goesOn] at stops; contradiction) operator
    rwa [Word.token_text, Operator.token_text, String.toList_ofList, String.toList_ofList, List.nil_append,
      List.nil_append, List.nil_append, Operator.symbol_append_skip found, Word.source_read] at token
  | @word position cs ts goesOn _ _ ih =>
    have token := @Gapped.token free gap ((Word.read cs).1.token position) _ _ blank
      (fun empty => (start empty).imp_right fun stops => by rw [goesOn] at stops; contradiction)
      (ih none fun _ => Or.inr (Word.stopsAt_rest cs))
    rwa [Word.token_text, String.toList_ofList, List.nil_append, Word.source_read] at token

theorem gapped_scan (command : String) : Gapped true command.toList (scan command) :=
  @Scans.gapped _ _ _ (scans_scanFrom 0 command.toList) true [] rfl fun _ => Or.inl rfl

/-- No space follows an operator that duplicates a descriptor, and none precedes `;`. -/
theorem mark_of_gap_eq_nil {t u : Token} {start place : Nat} {bs cs : List Char} (before : t ∈ scanFrom start bs)
    (behind : u ∈ scanFrom place cs) (none : gap t u = []) : t.endsWithMark = true ∨ u.beginsWithMark = true := by
  have tight : t.piece.spaceAfter = false ∨ u.piece.spaceBefore = false := by
    rw [← Bool.and_eq_false_iff]
    refine Bool.eq_false_iff.2 fun spaced => ?_
    rw [gap, if_pos spaced] at none
    contradiction
  rcases tight with after | sequence
  · rcases cases_of_mem_scanFrom before with ⟨start, w, rfl, _⟩ | ⟨start, digits, op, rfl, _⟩
    · rw [Piece.spaceAfter, operator?_piece_wordToken] at after
      contradiction
    · exact Or.inl (endsWithMark_operatorToken _ _ op)
  · have text := text_of_isSequence behind ((spaceBefore_eq_false_iff behind).1 sequence)
    exact Or.inr (by rw [beginsWithMark, text]; rfl)

theorem gapped_joinAfter {t : Token} {us : List Token}
    (inside : ∀ u ∈ t :: us, ∃ position cs, u ∈ scanFrom position cs) :
    Gapped t.endsWithMark (Piece.joinAfter t.piece (us.map piece)).toList us := by
  induction us generalizing t with
  | nil => exact .done rfl
  | cons u us ih =>
    obtain ⟨⟨_, _, before⟩, others⟩ := List.forall_mem_cons.1 inside
    obtain ⟨_, _, behind⟩ := others u List.mem_cons_self
    have blank : (gap t u).all Text.isBlank = true := by
      unfold gap
      split <;> decide
    have token := Gapped.token blank (fun none => mark_of_gap_eq_nil before behind none) (ih others)
    have space : (if t.piece.spaceAfter && u.piece.spaceBefore then " " else "").toList = gap t u := by
      unfold gap
      split <;> rfl
    rwa [List.map_cons, Piece.joinAfter, String.toList_append, String.toList_append, space, List.append_assoc]

/-- What is laid out is the same tokens with other blanks between them. -/
theorem gapped_join (command : String) : Gapped true (Piece.join ((scan command).map piece)).toList (scan command) := by
  have filled := (tiles_scan command).text_ne_nil
  have inside : ∀ t ∈ scan command, ∃ position cs, t ∈ scanFrom position cs :=
    fun _ member => ⟨0, command.toList, member⟩
  cases tokens : scan command with
  | nil => exact .done rfl
  | cons t us =>
    rw [tokens] at filled inside
    rw [Piece.join_tokens filled, String.toList_append]
    exact @Gapped.token true [] t _ _ rfl (fun _ => Or.inl rfl) (gapped_joinAfter inside)

end

end Token

end ShellTemplate
