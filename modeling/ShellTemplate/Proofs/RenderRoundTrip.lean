import ShellTemplate.Proofs.RenderOrder
import ShellTemplate.Proofs.TokenReread

namespace ShellTemplate

namespace Token

/-- The token without its place. -/
def unplaced (t : Token) : Token :=
  { t with span := ⟨0, 0⟩ }

/-- A name in angle brackets right before `;`, where no space is put between them. -/
def clashes (t u : Token) : Bool :=
  t.isAngled && u.isSequence

section

variable {position : Nat} {cs : List Char} {t u : Token}

theorem spaceBefore_eq_false_iff (member : u ∈ scanFrom position cs) :
    u.piece.spaceBefore = false ↔ u.isSequence = true := by
  rcases cases_of_mem_scanFrom member with ⟨start, w, rfl, _⟩ | ⟨start, digits, op, rfl, allDigits, _⟩
  · simp [Piece.spaceBefore, operator?_piece_wordToken, isSequence, Word.token_isSeparator]
  · rw [Piece.spaceBefore, operator?_piece_operatorToken allDigits, isSequence, Operator.token_isSeparator,
      Operator.token_value]
    cases op <;> decide

theorem text_of_isSequence (member : u ∈ scanFrom position cs) (isSequence : u.isSequence = true) :
    u.text.toList = [';'] := by
  rcases cases_of_mem_scanFrom member with ⟨start, w, rfl, _⟩ | ⟨start, digits, op, rfl, _, bare⟩
  · simp [Token.isSequence, Word.token_isSeparator] at isSequence
  · simp only [Token.isSequence, Operator.token_isSeparator, Operator.token_value, Bool.true_and,
      beq_iff_eq] at isSequence
    have same : op = .sequence := by
      have known := Operator.ofSymbol?_symbol op
      rw [isSequence, Operator.ofSymbol?_symbol] at known
      exact (Option.some.inj known).symm
    subst same
    rcases bare with rfl | redirects
    · rw [Operator.token_text, String.toList_ofList]
      rfl
    · exact absurd redirects (by decide)

theorem text_of_isAngled (member : t ∈ scanFrom position cs) (angled : t.isAngled = true) :
    ∃ name dots, Text.isIdentifier name = true ∧ (dots = [] ∨ dots = ['.', '.', '.']) ∧
      t.text.toList = '<' :: (name ++ '>' :: dots) := by
  rcases cases_of_mem_scanFrom member with ⟨start, w, rfl, goesOn | found⟩ | ⟨start, digits, op, rfl, _⟩
  · obtain ⟨rest, goesOn, rfl⟩ := goesOn
    have head := @Word.head?_source_append rest [] goesOn
    obtain ⟨c, after, rfl, _, _, differs⟩ := goesOn_cons goesOn
    rw [List.append_nil, List.head?_cons] at head
    simp [isAngled, head, differs] at angled
  · obtain ⟨rest, after, found⟩ := found
    obtain ⟨name, dots, identifier, shape, _, _, rfl⟩ := Word.angled?_eq_some_iff.1 found
    exact ⟨name, dots, identifier, shape, by rw [Word.token_text, String.toList_ofList, Word.source_map_plain]⟩
  · rw [isAngled_operatorToken] at angled
    contradiction

/-- Before `;` a name in angle brackets is none: its bracket is read as an operator. -/
theorem scanFrom_angled_sequence {name dots rest : List Char} (identifier : Text.isIdentifier name = true)
    (shape : dots = [] ∨ dots = ['.', '.', '.']) :
    ∃ ts, scanFrom position ('<' :: (name ++ '>' :: (dots ++ ';' :: rest))) =
      Operator.redirectIn.token position [] :: ts := by
  have inside := Text.isNameChar_of_isIdentifier identifier
  have plain : Word.angled? ('<' :: (name ++ '>' :: (dots ++ ';' :: rest))) = none := by
    cases found : Word.angled? ('<' :: (name ++ '>' :: (dots ++ ';' :: rest))) with
    | none => rfl
    | some result =>
      obtain ⟨w, after⟩ := result
      obtain ⟨name', dots', identifier', shape', blank, whole, _⟩ := Word.angled?_eq_some_iff.1 found
      have inside' := Text.isNameChar_of_isIdentifier identifier'
      have behind := congrArg (List.dropWhile Text.isNameChar) (List.cons.inj whole).2
      rw [Text.dropWhile_run inside (by rfl), Text.dropWhile_run inside' (by rfl)] at behind
      have same := (List.cons.inj behind).2
      have next (c : Char) (tail : List Char) (solid : Text.isBlank c = false) : after ≠ c :: tail := by
        rintro rfl
        rw [show Text.isBlank c = true from blank] at solid
        contradiction
      rcases shape with rfl | rfl <;> rcases shape' with rfl | rfl
      · exact absurd same.symm (next ';' _ (by decide))
      · simp at same
      · exact absurd same.symm (next '.' _ (by decide))
      · simp only [List.cons_append, List.nil_append, List.cons.injEq, true_and] at same
        exact absurd same.symm (next ';' _ (by decide))
  obtain ⟨c, more, rfl⟩ : ∃ c more, name = c :: more := by
    cases name with
    | nil => simp [Text.isIdentifier] at identifier
    | cons c more => exact ⟨c, more, rfl⟩
  have alpha : c.isAlpha = true := (Bool.and_eq_true_iff.1 identifier).1
  have apart : Operator.redirectIn.growsBy (c :: (more ++ '>' :: (dots ++ ';' :: rest))) = false := by
    refine Operator.growsBy_eq_false ⟨?_, ?_, ?_, ?_⟩ <;> rintro rfl <;> exact absurd alpha (by decide)
  exact ⟨_, (@Scans.operator position _ .redirectIn _ plain (Operator.leading?_symbol_append apart)
    (scans_scanFrom _ _)).eq_scanFrom.symm⟩

/-- The space that is put between two tokens. -/
def gap (t u : Token) : List Char :=
  if t.piece.spaceAfter && u.piece.spaceBefore then [' '] else []

theorem mayMeet_of_not_clashes {tail : List Char} (member : u ∈ scanFrom position cs)
    (apart : t.clashes u = false) : t.mayMeet (gap t u ++ (u.text.toList ++ tail)) = true := by
  unfold gap
  cases after : t.piece.spaceAfter with
  | false =>
    rw [Bool.false_and, if_neg Bool.false_ne_true, List.nil_append]
    cases u.text.toList ++ tail with
    | nil => rfl
    | cons c rest => simp [mayMeet, after]
  | true =>
    cases before : u.piece.spaceBefore with
    | true =>
      rw [Bool.true_and, if_pos rfl, List.cons_append, mayMeet, show Text.isBlank ' ' = true by decide]
      rfl
    | false =>
      have isSequence := (spaceBefore_eq_false_iff member).1 before
      rw [clashes, isSequence, Bool.and_true] at apart
      simp [text_of_isSequence member isSequence, mayMeet, apart]

theorem scanFrom_gap (place : Nat) (rest : List Char) :
    ∃ next, scanFrom place (gap t u ++ rest) = scanFrom next rest := by
  unfold gap
  split
  · exact ⟨_, (Scans.blank (by decide) (scans_scanFrom _ _)).eq_scanFrom.symm⟩
  · exact ⟨place, rfl⟩

/-- At a clash the first token is not read again. -/
theorem scanFrom_of_clashes {start : Nat} {ds : List Char} (memberT : t ∈ scanFrom start ds)
    (memberU : u ∈ scanFrom position cs) (clash : t.clashes u = true) (place : Nat) (rest : List Char) (us : List Token) :
    (scanFrom place (t.text.toList ++ (gap t u ++ (u.text.toList ++ rest)))).map unplaced ≠ unplaced t :: us := by
  obtain ⟨angled, isSequence⟩ := Bool.and_eq_true_iff.1 clash
  have tight := (spaceBefore_eq_false_iff memberU).2 isSequence
  obtain ⟨name, dots, identifier, shape, text⟩ := text_of_isAngled memberT angled
  have whole : t.text.toList ++ (gap t u ++ (u.text.toList ++ rest)) =
      '<' :: (name ++ '>' :: (dots ++ ';' :: rest)) := by
    simp [gap, tight, text, text_of_isSequence memberU isSequence]
  obtain ⟨ts, broken⟩ := @scanFrom_angled_sequence place name dots rest identifier shape
  rw [whole, broken]
  intro same
  have first := congrArg Token.text (List.cons.inj same).1
  have texts : (Operator.redirectIn.token place []).text = t.text := first
  rw [← texts, Operator.token_text, String.toList_ofList] at text
  have short := congrArg List.length text
  simp [Operator.symbol] at short

/-- What is laid out is read again as the same tokens, up to a first clash. -/
theorem scanFrom_layout_iff {t : Token} {us : List Token} (rereads : Rereads (t :: us))
    (inside : ∀ u ∈ t :: us, ∃ position cs, u ∈ scanFrom position cs) (place : Nat) :
    (scanFrom place (t.text.toList ++ (Piece.joinAfter t.piece (us.map piece)).toList)).map unplaced =
        (t :: us).map unplaced ↔
      ∀ x y, [x, y] <:+: t :: us → x.clashes y = false := by
  induction us generalizing t place with
  | nil =>
    cases rereads with
    | token reads _ =>
      have whole := reads [] rfl (fun _ => rfl) place
      simp only [List.map_nil, Piece.joinAfter, String.toList_empty]
      rw [whole, scanFrom_nil]
      refine ⟨fun _ x y pair => ?_, fun _ => rfl⟩
      have short := pair.length_le
      simp at short
  | cons u us ih =>
    obtain ⟨_, _, memberT⟩ := inside t List.mem_cons_self
    obtain ⟨_, _, memberU⟩ := inside u (List.mem_cons_of_mem _ List.mem_cons_self)
    have pairs (x y : Token) : [x, y] <:+: t :: u :: us ↔ (x = t ∧ y = u) ∨ [x, y] <:+: u :: us := by
      simp [List.infix_cons_iff]
    let tail := (Piece.joinAfter u.piece (us.map piece)).toList
    have layout : (Piece.joinAfter t.piece ((u :: us).map piece)).toList = gap t u ++ (u.text.toList ++ tail) := by
      simp only [List.map_cons, Piece.joinAfter, String.toList_append, gap, tail, List.append_assoc]
      split <;> rfl
    rw [layout]
    cases clash : t.clashes u with
    | true =>
      constructor
      · intro same
        exact absurd same (scanFrom_of_clashes memberT memberU clash place tail _)
      · intro apart
        have never := apart t u ((pairs t u).2 (Or.inl ⟨rfl, rfl⟩))
        rw [clash] at never
        contradiction
    | false =>
      cases rereads with
      | token reads later =>
        rw [reads _ (mayMeet_of_not_clashes memberU clash) (fun none => absurd none (List.cons_ne_nil _ _)) place]
        obtain ⟨next, skipped⟩ := @scanFrom_gap t u (place + Text.width t.text.toList) (u.text.toList ++ tail)
        have rest := ih later (fun v member => inside v (List.mem_cons_of_mem _ member)) next
        rw [skipped, List.map_cons, List.map_cons, List.cons.injEq, rest]
        simp only [pairs]
        constructor
        · rintro ⟨_, apart⟩ x y (⟨rfl, rfl⟩ | pair)
          · exact clash
          · exact apart x y pair
        · intro apart
          exact ⟨rfl, fun x y pair => apart x y (Or.inr pair)⟩

end

end Token

theorem Piece.join_tokens {t : Token} {us : List Token} (filled : ∀ u ∈ t :: us, u.text.toList ≠ []) :
    Piece.join ((t :: us).map Token.piece) = t.text ++ Piece.joinAfter t.piece (us.map Token.piece) := by
  have kept : ∀ p ∈ (t :: us).map Token.piece, (!p.text.isEmpty) = true := by
    intro p member
    obtain ⟨u, inside, rfl⟩ := List.mem_map.1 member
    simpa [Token.piece] using filled u inside
  rw [Piece.join, List.filter_eq_self.2 kept]
  rfl

namespace Structure

/-- A command line that is laid out anew from its structure is read as the same tokens, and laid out once
more it stays as it is, exactly if in the first one no name in angle brackets stands directly before a
`;`. -/
theorem render_round_trip_iff (command : String) :
    (Token.scan (ofCommand command).render).map Token.unplaced = (Token.scan command).map Token.unplaced ∧
        (ofCommand (ofCommand command).render).render = (ofCommand command).render ↔
      ∀ t u, [t, u] <:+: Token.scan command → t.clashes u = false := by
  have again : (Token.scan (ofCommand command).render).map Token.unplaced = (Token.scan command).map Token.unplaced →
      (ofCommand (ofCommand command).render).render = (ofCommand command).render := by
    intro same
    have pieces := congrArg (List.map Token.piece) same
    rw [List.map_map, List.map_map] at pieces
    rw [render_ofCommand (ofCommand command).render]
    exact (congrArg Piece.join pieces).trans (render_ofCommand command).symm
  rw [and_iff_left_of_imp again, render_ofCommand]
  have filled := (Token.tiles_scan command).text_ne_nil
  have rereads : Token.Rereads (Token.scan command) := (Token.scans_scanFrom 0 command.toList).rereads
  have inside : ∀ t ∈ Token.scan command, ∃ position cs, t ∈ Token.scanFrom position cs :=
    fun _ member => ⟨0, command.toList, member⟩
  generalize Token.scan command = ts at filled rereads inside ⊢
  cases ts with
  | nil => simp [Token.scan, show Piece.join [] = "" from rfl, Token.scanFrom_nil]
  | cons t us =>
    rw [Piece.join_tokens filled, Token.scan, String.toList_append]
    exact Token.scanFrom_layout_iff rereads inside 0

/-- The space before `;` is lost, and the bracket before it becomes an operator. -/
theorem render_not_round_trip_of_angled :
    (Token.scan (ofCommand "cat <file> ; ls").render).map Token.unplaced ≠
      (Token.scan "cat <file> ; ls").map Token.unplaced := by
  decide +kernel

end Structure

end ShellTemplate
