import Mathlib.Data.List.Chain
import ShellTemplate.Proofs.RenderRoundTrip
import ShellTemplate.Proofs.SpacedWords

namespace ShellTemplate

/-- The characters are one word where `rest` follows. -/
def Word.isWholeBefore (rest cs : List Char) : Bool :=
  (!stopsAt cs && (read (cs ++ rest)).2 == rest) || (angled? (cs ++ rest)).any (·.2 == rest)

namespace Token

/-- The token is one of some text. -/
def IsScanned (t : Token) : Prop :=
  ∃ position cs, t ∈ scanFrom position cs

/-- A token that is read from its text before all that it may meet. -/
structure IsFirm (t : Token) : Prop where
  reads : ∀ rest, t.mayMeet rest = true → t.ReadsBefore rest
  scanned : t.IsScanned

/-- An operator is read wherever it may stand, with the number before it. -/
theorem isFirm_of_isSeparator {position : Nat} {cs : List Char} {t : Token} (member : t ∈ scanFrom position cs)
    (separator : t.isSeparator = true) : t.IsFirm := by
  refine ⟨fun rest meets => ?_, position, cs, member⟩
  have scans := scans_scanFrom position cs
  generalize scanFrom position cs = ts at member scans
  induction scans with
  | done => exact absurd member List.not_mem_nil
  | blank _ _ ih => exact ih member
  | angled _ _ ih =>
    rcases List.mem_cons.1 member with rfl | later
    · rw [Word.token_isSeparator] at separator
      contradiction
    · exact ih later
  | operator _ _ _ ih =>
    rcases List.mem_cons.1 member with rfl | later
    · exact readsBefore_operator meets
    · exact ih later
  | descriptor goesOn found redirects isDescriptor _ ih =>
    rcases List.mem_cons.1 member with rfl | later
    · exact readsBefore_descriptor goesOn found redirects isDescriptor meets
    · exact ih later
  | attached _ _ _ _ _ ih =>
    rcases List.mem_cons.1 member with rfl | later
    · rw [Word.token_isSeparator] at separator
      contradiction
    · rcases List.mem_cons.1 later with rfl | last
      · exact readsBefore_operator meets
      · exact ih last
  | word _ _ _ ih =>
    rcases List.mem_cons.1 member with rfl | later
    · rw [Word.token_isSeparator] at separator
      contradiction
    · exact ih later

/-- The token is read from its text before all that it may meet, which is nothing if `rest` is. -/
def ReadsIn (t : Token) (rest : List Char) : Prop :=
  ∀ after, t.mayMeet after = true → (rest = [] → after = []) → t.ReadsBefore after

theorem isScanned_of_readsIn {w : Word} {rest : List Char} (reads : (w.token 0).ReadsIn rest) : (w.token 0).IsScanned := by
  refine ⟨0, (w.token 0).text.toList ++ [], ?_⟩
  rw [reads [] rfl (fun _ => rfl) 0, moved_wordToken]
  exact List.mem_cons_self

/-- A word that is whole before a blank is read wherever it may stand, and one that is whole at the end is read there. -/
theorem exists_readsIn_of_isWholeBefore {rest : List Char} {text : String}
    (whole : Word.isWholeBefore rest text.toList = true) :
    ∃ t : Token, t.IsScanned ∧ t.piece = Build.word text ∧ t.ReadsIn rest := by
  have stands {w : Word} (source : w.source ++ rest = text.toList ++ rest) (reads : (w.token 0).ReadsIn rest) :
      ∃ t : Token, t.IsScanned ∧ t.piece = Build.word text ∧ t.ReadsIn rest := by
    refine ⟨w.token 0, isScanned_of_readsIn reads, ?_, reads⟩
    rw [piece, Word.token_isSeparator, Word.token_text, List.append_cancel_right source, String.ofList_toList]
    rfl
  rcases Bool.or_eq_true_iff.1 whole with plain | angled
  · obtain ⟨goesOn, left⟩ := Bool.and_eq_true_iff.1 plain
    rw [Bool.not_eq_true'] at goesOn
    rw [beq_iff_eq] at left
    have source := Word.source_read (text.toList ++ rest)
    rw [left] at source
    refine stands source fun after meets last => ?_
    exact readsBefore_word (Word.stopsAt_append goesOn rest) meets fun nothing => last (left.symm.trans nothing)
  · obtain ⟨⟨w, after⟩, found, left⟩ := (Option.any_eq_true _ _).1 angled
    cases beq_iff_eq.1 left
    exact stands (Word.source_append_of_angled? found) fun after meets _ => readsBefore_angled found meets

/-- A word that is read where no operator stands has the text that is read there. -/
theorem text_of_goesOn {position : Nat} {cs : List Char} {t : Token} {ts : List Token} (goesOn : Word.stopsAt cs = false)
    (first : scanFrom position cs = t :: ts) (word : t.isSeparator = false) :
    t.text.toList = (Word.read cs).1.source := by
  obtain ⟨c, rest, rfl, notBlank, noOperator, other⟩ := goesOn_cons goesOn
  have scans := scans_scanFrom position (c :: rest)
  rw [first] at scans
  cases scans with
  | blank blank _ => contradiction
  | angled found _ =>
    rw [Word.angled?_eq_none other] at found
    contradiction
  | operator _ found _ =>
    rw [noOperator] at found
    contradiction
  | descriptor _ _ _ _ _ =>
    rw [Operator.token_isSeparator] at word
    contradiction
  | attached _ _ _ _ _ => rw [Word.token_text, String.toList_ofList]
  | word _ _ _ => rw [Word.token_text, String.toList_ofList]

/-- Conversely, a word that is read from its text is whole. -/
theorem isWholeBefore_of_readsBefore {rest : List Char} {t : Token} (scanned : t.IsScanned)
    (word : t.isSeparator = false) (ended : rest.head?.all Text.isBlank = true) (reads : t.ReadsBefore rest) :
    Word.isWholeBefore rest t.text.toList = true := by
  obtain ⟨position, cs, member⟩ := scanned
  rcases cases_of_mem_scanFrom member with
    ⟨start, w, rfl, ⟨more, goesOn, rfl⟩ | ⟨more, after, found⟩⟩ | ⟨_, _, op, rfl, _⟩
  · have still : Word.stopsAt (Word.read more).1.source = false := by
      have head := @Word.head?_source_append more [] goesOn
      rw [List.append_nil] at head
      rw [Word.stopsAt_eq_of_head? head, goesOn]
    have once := reads 0
    rw [Word.token_text, String.toList_ofList] at once ⊢
    have source := Word.source_read ((Word.read more).1.source ++ rest)
    rw [← text_of_goesOn (Word.stopsAt_append still rest) once word, moved_wordToken, Word.token_text,
      String.toList_ofList] at source
    rw [Word.isWholeBefore, still, List.append_cancel_left source]
    simp
  · obtain ⟨name, dots, identifier, shape, _, rfl, rfl⟩ := Word.angled?_eq_some_iff.1 found
    rw [Word.token_text, String.toList_ofList, Word.source_map_plain]
    have again : Word.angled? ('<' :: (name ++ '>' :: dots) ++ rest) =
        some (('<' :: (name ++ '>' :: dots)).map .plain, rest) :=
      Word.angled?_eq_some_iff.2 ⟨name, dots, identifier, shape, ended, by simp, rfl⟩
    rw [Word.isWholeBefore, again]
    simp
  · rw [Operator.token_isSeparator] at word
    contradiction

theorem IsScanned.text_ne_nil {t : Token} (scanned : t.IsScanned) : t.text.toList ≠ [] := by
  obtain ⟨position, cs, member⟩ := scanned
  exact (scans_scanFrom position cs).tiles.text_ne_nil t member

/-- Tokens that are read from their texts are read back from what is laid out of them exactly if none clashes with the
next. -/
theorem scan_join_iff {ts : List Token} (rereads : Rereads ts) (scanned : ∀ t ∈ ts, t.IsScanned) :
    (scan (Piece.join (ts.map piece))).map unplaced = ts.map unplaced ↔ ts.IsChain fun t u => t.clashes u = false := by
  cases ts with
  | nil => simp [scan, show Piece.join [] = "" from rfl, scanFrom_nil]
  | cons t us =>
    rw [Piece.join_tokens fun u member => (scanned u member).text_ne_nil, scan, String.toList_append]
    rw [scanFrom_layout_iff rereads scanned 0]
    constructor
    · intro apart
      refine List.isChain_iff_forall_rel_of_append_cons_cons.2 fun x y front back whole => ?_
      exact apart x y ⟨front, back, by simp [whole]⟩
    · rintro chain x y ⟨front, back, whole⟩
      exact List.isChain_iff_forall_rel_of_append_cons_cons.1 chain
        (by rw [← whole, List.append_assoc, List.cons_append, List.cons_append, List.nil_append])

end Token

namespace Piece

/-- What is laid out is read as the pieces that leave a trace. -/
def ReadBack (ps : List Piece) : Prop :=
  (Token.scan (join ps)).map Token.piece = ps.filter fun p => !p.text.isEmpty

instance (ps : List Piece) : Decidable (ReadBack ps) :=
  inferInstanceAs (Decidable (_ = _))

/-- A name in angle brackets right before `;`. -/
def clashes (p q : Piece) : Bool :=
  !p.isOperator && p.text.toList.head? == some '<' && q.operator? == some .sequence

theorem clashes_piece {t u : Token} (scanned : u.IsScanned) : t.piece.clashes u.piece = t.clashes u := by
  obtain ⟨position, cs, member⟩ := scanned
  have sequence : (u.piece.operator? == some .sequence) = u.isSequence := by
    rcases Token.cases_of_mem_scanFrom member with ⟨start, w, rfl, _⟩ | ⟨start, digits, op, rfl, allDigits, _⟩
    · rw [Token.operator?_piece_wordToken, Token.isSequence, Word.token_isSeparator]
      rfl
    · rw [Token.operator?_piece_operatorToken allDigits, Token.isSequence, Operator.token_isSeparator,
        Operator.token_value]
      cases op <;> decide
  rw [clashes, sequence]
  rfl

theorem join_filter (ps : List Piece) : join (ps.filter fun p => !p.text.isEmpty) = join ps := by
  rw [join, join, List.filter_filter]
  simp

/-- An operator, or a text that is one word where `rest` follows. -/
def isWholeBefore (rest : List Char) (p : Piece) : Bool :=
  p.isOperator || Word.isWholeBefore rest p.text.toList

/-- Each piece alone is whole, the last one at the end and the others before a blank, and no name in angle brackets stands
right before `;`. -/
def areWhole : List Piece → Bool
  | [] => true
  | p :: ps =>
    p.isWholeBefore (if ps.isEmpty then [] else [' ']) && ps.head?.all (fun q => !p.clashes q) && areWhole ps

theorem isWholeBefore_piece {rest : List Char} {t : Token} (scanned : t.IsScanned)
    (ended : rest.head?.all Text.isBlank = true) (reads : t.ReadsBefore rest) : t.piece.isWholeBefore rest = true := by
  refine Bool.or_eq_true_iff.2 ?_
  cases separator : t.isSeparator with
  | true => exact Or.inl separator
  | false => exact Or.inr (Token.isWholeBefore_of_readsBefore scanned separator ended reads)

theorem exists_readsIn_of_isWholeBefore {rest : List Char} {p : Piece}
    (firm : p.isOperator = true → ∃ t : Token, t.IsFirm ∧ t.piece = p) (whole : p.isWholeBefore rest = true) :
    ∃ t : Token, t.IsScanned ∧ t.piece = p ∧ t.ReadsIn rest := by
  cases operator : p.isOperator with
  | true =>
    obtain ⟨t, firm, piece⟩ := firm operator
    exact ⟨t, firm.scanned, piece, fun after meets _ => firm.reads after meets⟩
  | false =>
    have word : Build.word p.text = p := by rw [Build.word, ← operator]
    rw [isWholeBefore, operator, Bool.false_or] at whole
    exact word ▸ Token.exists_readsIn_of_isWholeBefore whole

/-- Tokens that are read back, and of which none clashes with the next, leave whole pieces. -/
theorem areWhole_of_rereads {ts : List Token} (rereads : Token.Rereads ts) (scanned : ∀ t ∈ ts, t.IsScanned)
    (apart : ts.IsChain fun t u => t.clashes u = false) : areWhole (ts.map Token.piece) = true := by
  induction rereads with
  | done => rfl
  | @token t ts reads _ ih =>
    obtain ⟨here, later⟩ := List.forall_mem_cons.1 scanned
    obtain ⟨first, rest⟩ := List.isChain_cons.1 apart
    rw [List.map_cons, areWhole, ih later rest, Bool.and_true, Bool.and_eq_true]
    cases ts with
    | nil => exact ⟨isWholeBefore_piece here rfl (reads [] rfl fun _ => rfl), rfl⟩
    | cons u us =>
      refine ⟨isWholeBefore_piece here rfl (reads [' '] rfl nofun), ?_⟩
      rw [List.map_cons, List.head?_cons, Option.all_some, clashes_piece (later u List.mem_cons_self), first u rfl]
      rfl

/-- Whole pieces are those of tokens that are read back and do not clash, if their operators are. -/
theorem exists_rereads_of_areWhole {ps : List Piece}
    (firm : ∀ p ∈ ps, p.isOperator = true → ∃ t : Token, t.IsFirm ∧ t.piece = p) (whole : areWhole ps = true) :
    ∃ ts : List Token, Token.Rereads ts ∧ (∀ t ∈ ts, t.IsScanned) ∧ ts.map Token.piece = ps ∧
      ts.IsChain fun t u => t.clashes u = false := by
  induction ps with
  | nil => exact ⟨[], .done, fun _ member => absurd member List.not_mem_nil, rfl, .nil⟩
  | cons p ps ih =>
    obtain ⟨here, later⟩ := List.forall_mem_cons.1 firm
    obtain ⟨whole, others⟩ := Bool.and_eq_true_iff.1 whole
    obtain ⟨alone, free⟩ := Bool.and_eq_true_iff.1 whole
    obtain ⟨ts, rereads, scanned, rfl, apart⟩ := ih later others
    obtain ⟨t, inside, rfl, reads⟩ := exists_readsIn_of_isWholeBefore here alone
    refine ⟨t :: ts, .token (fun after meets last => reads after meets fun nothing => last ?_) rereads,
      List.forall_mem_cons.2 ⟨inside, scanned⟩, rfl, List.isChain_cons.2 ⟨fun u next => ?_, apart⟩⟩
    · cases ts with
      | nil => rfl
      | cons u us => cases nothing
    · rw [← clashes_piece (scanned u (List.mem_of_mem_head? next))]
      rw [List.head?_map, Option.mem_def.1 next] at free
      simpa using free

/-- Pieces are read back exactly if those that leave a trace are whole. -/
theorem readBack_iff {ps : List Piece}
    (firm : ∀ p ∈ ps, p.isOperator = true → ∃ t : Token, t.IsFirm ∧ t.piece = p) :
    ReadBack ps ↔ areWhole (ps.filter fun p => !p.text.isEmpty) = true := by
  constructor
  · intro readBack
    have same : join ((Token.scan (join ps)).map Token.piece) = join ps := by rw [readBack, join_filter]
    rw [← readBack]
    have scanned : ∀ t ∈ Token.scan (join ps), t.IsScanned := fun _ member => ⟨0, _, member⟩
    exact areWhole_of_rereads (Token.scans_scanFrom 0 _).rereads scanned
      ((Token.scan_join_iff (Token.scans_scanFrom 0 _).rereads scanned).1 (congrArg _ (congrArg Token.scan same)))
  · intro whole
    obtain ⟨ts, rereads, scanned, pieces, apart⟩ :=
      exists_rereads_of_areWhole (fun p member => firm p (List.mem_filter.1 member).1) whole
    have back := congrArg (List.map Token.piece) ((Token.scan_join_iff rereads scanned).2 apart)
    rw [List.map_map, List.map_map] at back
    rw [ReadBack, ← join_filter, ← pieces]
    exact back

end Piece

end ShellTemplate
