import ShellTemplate.Proofs.TokenTiles
import ShellTemplate.Structure.Render

namespace ShellTemplate

theorem Operator.bare_append {op : Operator} {digits : List Char} (allDigits : digits.all Char.isDigit = true) :
    bare (String.ofList (digits ++ op.symbol.toList)) = op.symbol := by
  have stop : op.symbol.toList.head?.any Char.isDigit = false := by cases op <;> decide
  rw [bare, String.toList_ofList, Text.dropWhile_run (List.all_eq_true.1 allDigits) stop, String.ofList_toList]

/-- No name in angle brackets begins where no letter follows the bracket. -/
theorem Word.angled?_eq_none_of_head {rest : List Char} (other : rest.head?.any Char.isAlpha = false) :
    angled? ('<' :: rest) = none := by
  cases found : angled? ('<' :: rest) with
  | none => rfl
  | some result =>
    obtain ⟨w, after⟩ := result
    obtain ⟨name, dots, identifier, _, _, whole, _⟩ := angled?_eq_some_iff.1 found
    cases name with
    | nil => simp [Text.isIdentifier] at identifier
    | cons c name =>
      obtain ⟨_, rfl⟩ := List.cons.inj whole
      simp only [Text.isIdentifier, Bool.and_eq_true] at identifier
      simp [identifier.1] at other

theorem Word.stopsAt_eq_of_head? {cs ds : List Char} (same : cs.head? = ds.head?) : stopsAt cs = stopsAt ds := by
  cases cs <;> cases ds <;> simp_all [stopsAt]

namespace Token

/-- The same token at another place. -/
def moved (position : Nat) (t : Token) : Token :=
  { t with span := ⟨position, position + Text.width t.text.toList⟩ }

theorem moved_wordToken (position start : Nat) (w : Word) : (w.token start).moved position = w.token position := by
  simp [moved, Word.token]

theorem moved_operatorToken (position start : Nat) (digits : List Char) (op : Operator) :
    (op.token start digits).moved position = op.token position digits := by
  simp [moved, Operator.token]

/-- A bare name in angle brackets, which is a word. -/
def isAngled (t : Token) : Bool :=
  !t.isSeparator && t.text.toList.head? == some '<'

/-- The operator `;`. -/
def isSequence (t : Token) : Bool :=
  t.isSeparator && t.value == Operator.sequence.symbol

/-- What a command line may hold right behind the token when it is laid out, if the token is still to be
read: a blank; the operator `;`, which no space precedes; or anything, if no space follows the token. -/
def mayMeet (t : Token) : List Char → Bool
  | [] => true
  | c :: _ => Text.isBlank c || (c == ';' && !t.isAngled) || !t.piece.spaceAfter

/-- The token is read from its text when `rest` follows. -/
def ReadsBefore (t : Token) (rest : List Char) : Prop :=
  ∀ position, scanFrom position (t.text.toList ++ rest) =
    t.moved position :: scanFrom (position + Text.width t.text.toList) rest

theorem operator?_piece_wordToken (start : Nat) (w : Word) : (w.token start).piece.operator? = none := by
  simp [Piece.operator?, piece, Word.token_isSeparator]

theorem operator?_piece_operatorToken {start : Nat} {digits : List Char} {op : Operator}
    (allDigits : digits.all Char.isDigit = true) : (op.token start digits).piece.operator? = some op := by
  simp only [Piece.operator?, piece, Operator.token_isSeparator, Operator.token_text, if_true,
    Operator.bare_append allDigits, Operator.ofSymbol?_symbol]

theorem operator?_piece {position : Nat} {cs : List Char} {t : Token} (member : t ∈ scanFrom position cs)
    (separator : t.isSeparator = true) : t.piece.operator? = Operator.ofSymbol? t.value := by
  rcases cases_of_mem_scanFrom member with ⟨start, w, rfl, _⟩ | ⟨start, digits, op, rfl, allDigits, _⟩
  · rw [Word.token_isSeparator] at separator
    contradiction
  · rw [operator?_piece_operatorToken allDigits, Operator.token_value, Operator.ofSymbol?_symbol]

theorem mark_ne_blank {c d : Char} (blank : Text.isBlank c = true) (mark : Operator.isMark d = true) : c ≠ d := by
  rintro rfl
  rw [Operator.not_blank_of_isMark mark] at blank
  contradiction

/-- An operator meets nothing that it would grow by. -/
theorem growsBy_of_mayMeet {start : Nat} {digits : List Char} {op : Operator} {rest : List Char}
    (allDigits : digits.all Char.isDigit = true) (meets : (op.token start digits).mayMeet rest = true) :
    op.growsBy rest = false := by
  cases rest with
  | nil => rfl
  | cons c rest =>
    simp only [mayMeet, Bool.or_eq_true, Bool.and_eq_true, beq_iff_eq, Piece.spaceAfter,
      operator?_piece_operatorToken allDigits] at meets
    rcases meets with (blank | ⟨rfl, _⟩) | tight
    · exact Operator.growsBy_eq_false ⟨mark_ne_blank blank (by decide), mark_ne_blank blank (by decide),
        mark_ne_blank blank (by decide), mark_ne_blank blank (by decide)⟩
    · exact Operator.growsBy_eq_false (by decide)
    · revert tight
      cases op <;> simp [Operator.spacing, Operator.growsBy, Operator.grow?, Operator.symbol]

theorem angled?_of_mayMeet {start : Nat} {op : Operator} {rest : List Char}
    (meets : (op.token start []).mayMeet rest = true) : Word.angled? (op.symbol.toList ++ rest) = none := by
  have other {c : Char} {more : List Char} (differs : c ≠ '<') : Word.angled? (c :: more) = none :=
    Word.angled?_eq_none differs
  cases op with
  | redirectIn =>
    refine Word.angled?_eq_none_of_head ?_
    cases rest with
    | nil => rfl
    | cons c rest =>
      simp only [mayMeet, Bool.or_eq_true, Bool.and_eq_true, beq_iff_eq, Piece.spaceAfter,
        @operator?_piece_operatorToken start [] .redirectIn rfl] at meets
      rcases meets with (blank | ⟨rfl, _⟩) | tight
      · simpa using Text.not_alpha_of_isBlank blank
      · rfl
      · simp [Operator.spacing] at tight
  | hereDocument | duplicateIn => exact Word.angled?_eq_none_of_head rfl
  | _ => exact other (by decide)

/-- An operator is read wherever it may stand. -/
theorem readsBefore_operator {start : Nat} {op : Operator} {rest : List Char}
    (meets : (op.token start []).mayMeet rest = true) : (op.token start []).ReadsBefore rest := by
  intro position
  have found := Operator.leading?_symbol_append (growsBy_of_mayMeet rfl meets)
  have step := @Scans.operator position _ op _ (angled?_of_mayMeet meets) found (scans_scanFrom _ _)
  rw [Operator.skip_append] at step
  rw [moved_operatorToken, Operator.token_text, String.toList_ofList, List.nil_append]
  exact step.eq_scanFrom.symm

theorem isAngled_operatorToken (start : Nat) (digits : List Char) (op : Operator) :
    (op.token start digits).isAngled = false := rfl

/-- Where a word may stand, it stops. -/
theorem stopsAt_of_mayMeet {start : Nat} {w : Word} {rest : List Char}
    (meets : (w.token start).mayMeet rest = true) : Word.stopsAt rest = true := by
  cases rest with
  | nil => rfl
  | cons c rest =>
    simp only [mayMeet, Piece.spaceAfter, operator?_piece_wordToken, Bool.not_true, Bool.or_false, Bool.or_eq_true,
      Bool.and_eq_true, beq_iff_eq] at meets
    simp only [Word.stopsAt, Bool.or_eq_true]
    rcases meets with blank | ⟨rfl, _⟩
    · exact Or.inl blank
    · exact Or.inr (by decide)

theorem leading?_of_blank {c : Char} {rest : List Char} (blank : Text.isBlank c = true) :
    Operator.leading? (c :: rest) = none := by
  rw [Operator.leading?_eq_none_iff]
  cases mark : Operator.isMark c with
  | false => rfl
  | true => simp [Operator.not_blank_of_isMark mark] at blank

theorem leading?_sequence (rest : List Char) : Operator.leading? (';' :: rest) = some .sequence := by
  have apart : Operator.sequence.growsBy rest = false := by cases rest <;> rfl
  exact Operator.leading?_symbol_append apart

/-- A word that something stopped is read wherever it may stand, and one that nothing stopped at the end. -/
theorem readsBefore_word {cs rest : List Char} {start : Nat} (goesOn : Word.stopsAt cs = false)
    (meets : ((Word.read cs).1.token start).mayMeet rest = true)
    (ended : (Word.read cs).2 = [] → rest = []) : ((Word.read cs).1.token start).ReadsBefore rest := by
  intro position
  rw [moved_wordToken, Word.token_text, String.toList_ofList]
  have again : Word.read ((Word.read cs).1.source ++ rest) = ((Word.read cs).1, rest) :=
    Word.read_again (stopsAt_of_mayMeet meets) fun unclosed => ended (Word.rest_of_open unclosed)
  have still : Word.stopsAt ((Word.read cs).1.source ++ rest) = false := by
    rw [Word.stopsAt_eq_of_head? (Word.head?_source_append goesOn), goesOn]
  have plain (none : Operator.leading? rest = none) :
      scanFrom position ((Word.read cs).1.source ++ rest) = (Word.read cs).1.token position ::
        scanFrom (position + Text.width (Word.read cs).1.source) rest := by
    have step := @Scans.word position _ (scanFrom (position + Text.width (Word.read cs).1.source) rest) still
    rw [again] at step
    exact (step none (scans_scanFrom _ _)).eq_scanFrom.symm
  cases rest with
  | nil => exact plain rfl
  | cons c rest =>
    simp only [mayMeet, Piece.spaceAfter, operator?_piece_wordToken, Bool.not_true, Bool.or_false, Bool.or_eq_true,
      Bool.and_eq_true, beq_iff_eq] at meets
    rcases meets with blank | ⟨rfl, _⟩
    · exact plain (leading?_of_blank blank)
    · have found := leading?_sequence rest
      let middle := position + Text.width (Word.read cs).1.source
      have next := @Scans.operator middle _ _ _ (Word.angled?_eq_none (by decide)) found (scans_scanFrom _ _)
      have step := @Scans.attached position middle _ .sequence
        (scanFrom (Operator.sequence.token middle []).span.stop (Operator.sequence.skip (';' :: rest))) still
      rw [again] at step
      rw [← (step found rfl rfl (scans_scanFrom _ _)).eq_scanFrom, ← next.eq_scanFrom]

/-- A name in angle brackets is read before a blank and at the end. -/
theorem readsBefore_angled {cs after rest : List Char} {w : Word} {start : Nat}
    (found : Word.angled? cs = some (w, after)) (meets : (w.token start).mayMeet rest = true) :
    (w.token start).ReadsBefore rest := by
  intro position
  obtain ⟨name, dots, identifier, shape, _, rfl, rfl⟩ := Word.angled?_eq_some_iff.1 found
  have bracket : ((Word.token start (('<' :: (name ++ '>' :: dots)).map Segment.plain))).isAngled = true := by
    simp only [isAngled, Word.token_isSeparator, Word.token_text, String.toList_ofList, Word.source_map_plain]
    rfl
  have blank : rest.head?.all Text.isBlank = true := by
    cases rest with
    | nil => rfl
    | cons c rest =>
      change Text.isBlank c = true
      simpa only [mayMeet, Piece.spaceAfter, operator?_piece_wordToken, bracket, Bool.not_true, Bool.and_false,
        Bool.or_false] using meets
  have again := Word.angled?_eq_some_iff.2 ⟨name, dots, identifier, shape, blank, rfl, rfl⟩
  have step := (@Scans.angled position _ _ _ _ again (scans_scanFrom _ _)).eq_scanFrom
  rw [moved_wordToken, Word.token_text, String.toList_ofList, step, Word.source_map_plain]
  simp

/-- A number with its redirect is read wherever the redirect may stand. -/
theorem readsBefore_descriptor {cs rest : List Char} {op : Operator} {start : Nat}
    (goesOn : Word.stopsAt cs = false) (found : Operator.leading? (Word.read cs).2 = some op)
    (redirects : op.isRedirect = true) (isDescriptor : (Word.read cs).1.isDescriptor = true)
    (meets : (op.token start (Word.read cs).1.source).mayMeet rest = true) :
    (op.token start (Word.read cs).1.source).ReadsBefore rest := by
  intro position
  have allDigits := (Bool.and_eq_true_iff.1 isDescriptor).2
  have leads := Operator.leading?_symbol_append (growsBy_of_mayMeet allDigits meets)
  have stop : Word.stopsAt (op.symbol.toList ++ rest) = true := by cases op <;> rfl
  have again : Word.read ((Word.read cs).1.source ++ (op.symbol.toList ++ rest)) =
      ((Word.read cs).1, op.symbol.toList ++ rest) :=
    Word.read_again stop fun unclosed => by
      rw [Word.rest_of_open unclosed] at found
      exact nomatch found
  have still : Word.stopsAt ((Word.read cs).1.source ++ (op.symbol.toList ++ rest)) = false := by
    rw [Word.stopsAt_eq_of_head? (Word.head?_source_append goesOn), goesOn]
  have step := @Scans.descriptor position _ op
    (scanFrom (op.token position (Word.read cs).1.source).span.stop (op.skip (op.symbol.toList ++ rest))) still
  rw [again] at step
  rw [moved_operatorToken, Operator.token_text, String.toList_ofList, List.append_assoc,
    ← (step leads redirects isDescriptor (scans_scanFrom _ _)).eq_scanFrom, Operator.skip_append]
  rfl

/-- Tokens that are read from their texts again, each before all that it may meet. Only the last one
needs the end behind it. -/
inductive Rereads : List Token → Prop
  | done : Rereads []
  | token {t ts} : (∀ rest, t.mayMeet rest = true → (ts = [] → rest = []) → t.ReadsBefore rest) →
      Rereads ts → Rereads (t :: ts)

theorem scanFrom_nil (position : Nat) : scanFrom position [] = [] :=
  Scans.done.eq_scanFrom.symm

theorem Scans.rereads {position : Nat} {cs : List Char} {ts : List Token} (scans : Scans position cs ts) :
    Rereads ts := by
  induction scans with
  | done => exact .done
  | blank _ _ ih => exact ih
  | angled found _ ih => exact .token (fun rest meets _ => readsBefore_angled found meets) ih
  | operator _ _ _ ih => exact .token (fun rest meets _ => readsBefore_operator meets) ih
  | descriptor goesOn found redirects isDescriptor _ ih =>
    exact .token (fun rest meets _ => readsBefore_descriptor goesOn found redirects isDescriptor meets) ih
  | attached goesOn found _ _ _ ih =>
    refine .token (fun rest meets _ => readsBefore_word goesOn meets fun empty => ?_)
      (.token (fun rest meets _ => readsBefore_operator meets) ih)
    rw [empty] at found
    exact nomatch found
  | word goesOn _ tail ih =>
    refine .token (fun rest meets last => readsBefore_word goesOn meets fun empty => last ?_) ih
    rw [tail.eq_scanFrom, empty, scanFrom_nil]

end Token

end ShellTemplate
