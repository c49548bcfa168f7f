import ShellTemplate.Proofs.MarkedWords

namespace ShellTemplate

/-- A piece of a built command with the marks of its words. -/
inductive MarkedPiece where
  | operator (text : String)
  | word (marks : List Mark)
deriving DecidableEq, Repr

namespace MarkedPiece

def piece : MarkedPiece → Piece
  | .operator text => ⟨text, true⟩
  | .word marks => ⟨Mark.text marks, false⟩

def ofPiece (p : Piece) : MarkedPiece :=
  if p.isOperator then .operator p.text else .word (Mark.ofText p.text)

def marks : MarkedPiece → List Mark
  | .operator text => Mark.ofText text
  | .word marks => marks

/-- The values in the piece are not blank. -/
def IsFilled (p : MarkedPiece) : Prop :=
  Build.AllFilled p.marks

def isEmpty (p : MarkedPiece) : Bool :=
  p.marks.isEmpty

/-- The marks of the pieces after `previous`, with the spaces between them. -/
def joinAfter (previous : MarkedPiece) : List MarkedPiece → List Mark
  | [] => []
  | p :: rest =>
    (if previous.piece.spaceAfter && p.piece.spaceBefore then [.fixed ' '] else []) ++ p.marks ++ joinAfter p rest

/-- The marks of the whole command; pieces without marks leave no trace. -/
def join (ps : List MarkedPiece) : List Mark :=
  match ps.filter fun p => !p.isEmpty with
  | [] => []
  | p :: rest => p.marks ++ joinAfter p rest

theorem text_marks (p : MarkedPiece) : Mark.text p.marks = p.piece.text := by
  cases p with
  | operator text => exact Mark.text_ofText text
  | word marks => rfl

theorem piece_ofPiece (p : Piece) : (ofPiece p).piece = p := by
  obtain ⟨text, isOperator⟩ := p
  cases isOperator with
  | true => rfl
  | false => simp [ofPiece, piece]

theorem isFilled_ofPiece (p : Piece) : (ofPiece p).IsFilled := by
  unfold ofPiece IsFilled
  split <;> exact Build.allFilled_ofText _

theorem text_joinAfter (previous : MarkedPiece) (ps : List MarkedPiece) :
    Mark.text (joinAfter previous ps) = Piece.joinAfter previous.piece (ps.map piece) := by
  induction ps generalizing previous with
  | nil => rfl
  | cons p rest ih =>
    rw [joinAfter, Mark.text_append, Mark.text_append, ih, text_marks, List.map_cons, Piece.joinAfter]
    split <;> rfl

theorem source_ne_nil {m : Mark} (filled : m.IsFilled) : m.source ≠ [] := by
  cases m with
  | fixed c => exact List.cons_ne_nil c []
  | value context text =>
    have some : text.toList ≠ [] := by
      intro none
      simp [Mark.IsFilled, Text.isBlankText, none] at filled
    obtain ⟨c, cs, chars⟩ := List.exists_cons_of_ne_nil some
    cases context with
    | unquoted => simp only [Mark.source, QuoteContext.escape]; split <;> simp [chars]
    | single =>
      simp only [Mark.source, QuoteContext.escape, String.toList_ofList, QuoteContext.escapeSingle, chars,
        List.flatMap_cons]
      split <;> simp
    | double =>
      simp only [Mark.source, QuoteContext.escape, String.toList_ofList, QuoteContext.escapeDouble, chars,
        List.flatMap_cons]
      split <;> simp

/-- A piece stands for no text only if it has no marks. -/
theorem isEmpty_eq {p : MarkedPiece} (filled : p.IsFilled) : p.isEmpty = p.piece.text.isEmpty := by
  rw [isEmpty, ← text_marks, Mark.text]
  cases marks : p.marks with
  | nil => rfl
  | cons m ms =>
    have some := source_ne_nil (filled m (by rw [marks]; exact List.mem_cons_self))
    obtain ⟨c, cs, chars⟩ := List.exists_cons_of_ne_nil some
    simp [chars]

theorem text_join {ps : List MarkedPiece} (filled : ∀ p ∈ ps, p.IsFilled) :
    Mark.text (join ps) = Piece.join (ps.map piece) := by
  have same : (ps.map piece).filter (fun p => !p.text.isEmpty) = (ps.filter fun p => !p.isEmpty).map piece := by
    rw [List.filter_map]
    refine congrArg (List.map piece) (List.filter_congr fun p member => ?_)
    rw [Function.comp_apply, isEmpty_eq (filled p member)]
  rw [join, Piece.join, same]
  cases ps.filter fun p => !p.isEmpty with
  | nil => rfl
  | cons p rest => rw [Mark.text_append, text_marks, text_joinAfter]; rfl

theorem isFilled_joinAfter {previous : MarkedPiece} {ps : List MarkedPiece} (filled : ∀ p ∈ ps, p.IsFilled) :
    Build.AllFilled (joinAfter previous ps) := by
  induction ps generalizing previous with
  | nil => exact List.forall_mem_nil _
  | cons p rest ih =>
    obtain ⟨here, later⟩ := List.forall_mem_cons.1 filled
    intro m member
    rw [joinAfter, List.mem_append, List.mem_append] at member
    rcases member with (gap | own) | other
    · split at gap
      · rw [List.mem_singleton.1 gap]
        trivial
      · exact absurd gap List.not_mem_nil
    · exact here m own
    · exact ih later m other

theorem isFilled_join {ps : List MarkedPiece} (filled : ∀ p ∈ ps, p.IsFilled) : Build.AllFilled (join ps) := by
  have kept : ∀ p ∈ ps.filter fun p => !p.isEmpty, p.IsFilled :=
    fun p member => filled p ((List.mem_filter.1 member).1)
  unfold join
  split
  · exact List.forall_mem_nil _
  · rename_i p rest some
    rw [some] at kept
    obtain ⟨here, later⟩ := List.forall_mem_cons.1 kept
    exact fun m member => (List.mem_append.1 member).elim (here m) (isFilled_joinAfter later m)

end MarkedPiece

namespace Build

/-- The marked piece of a template token. -/
def markedToken (d : Definition) (s : Selection) (t : Token) : Except BuildError MarkedPiece :=
  if t.isSeparator then .ok (.operator t.text) else (wordMarks d s t).map .word

/-- The marked words of a selected option that the template does not spell out itself. -/
def markedOption (d : Definition) (s : Selection) (first : List Token) (o : CommandOption) :
    Except BuildError (List MarkedPiece) :=
  match s.selectedSpelling? o with
  | none => .ok []
  | some spelling =>
    if isSpelledIn first o then .ok []
    else if o.hasValue then do return [.word (Mark.ofText spelling), .word (← optionMarks d s o)]
    else .ok [.word (Mark.ofText spelling)]

/-- The pieces of the built command with their marks. -/
def markedPieces (d : Definition) (s : Selection) : Except BuildError (List MarkedPiece) := do
  let tokens := Token.scan d.command
  let first := tokens.takeWhile fun t => !t.isControl
  let others := tokens.dropWhile fun t => !t.isControl
  let head := first.takeWhile isHeadWord
  let words := addSubcommands s (tokens.map (·.value)) (head.map (·.text)) s.subcommands
  let options ← d.options.mapM (markedOption d s first)
  let rest ← (first.dropWhile isHeadWord).mapM (markedToken d s)
  let parameters ← (unmentioned d).mapM (parameterMarks? s)
  let tail ← others.mapM (markedToken d s)
  return words.map (MarkedPiece.word ∘ Mark.ofText) ++ options.flatten ++ rest ++
    (parameters.filterMap id).map .word ++ tail ++ (s.trailing.flatMap trailingPieces).map .ofPiece

/-- The marks of the built command. -/
def marks (d : Definition) (s : Selection) : Except BuildError (List Mark) := do
  checkReferences d s
  return MarkedPiece.join (← markedPieces d s)

section

variable {d : Definition} {s : Selection}

theorem tokenPiece_mirrors (executable : s.mode = .executable) (escapes : s.escapeValues = true) (t : Token) :
    Mirrors MarkedPiece.piece MarkedPiece.IsFilled (tokenPiece d s t) (markedToken d s t) := by
  unfold tokenPiece markedToken
  cases t.isSeparator with
  | true => exact Mirrors.ok (b := MarkedPiece.operator t.text) (allFilled_ofText t.text)
  | false => exact (wordText_mirrors executable escapes t).map (fun _ => rfl) fun _ filled => filled

theorem isFilled_word_ofText (text : String) : (MarkedPiece.word (Mark.ofText text)).IsFilled :=
  allFilled_ofText text

theorem optionPieces_mirrors (executable : s.mode = .executable) (escapes : s.escapeValues = true)
    (first : List Token) (o : CommandOption) :
    Mirrors (List.map MarkedPiece.piece) (fun ps => ∀ p ∈ ps, p.IsFilled) (optionPieces d s first o)
      (markedOption d s first o) := by
  have spelled (spelling : String) : word spelling = (MarkedPiece.word (Mark.ofText spelling)).piece := by
    simp [word, MarkedPiece.piece]
  unfold optionPieces markedOption
  cases s.selectedSpelling? o with
  | none => exact Mirrors.ok (b := []) (List.forall_mem_nil _)
  | some spelling =>
    dsimp only
    split
    · exact Mirrors.ok (b := []) (List.forall_mem_nil _)
    · split
      · refine (optionText_mirrors executable escapes o).bind fun ms filled => ?_
        rw [spelled]
        refine Mirrors.ok (b := [MarkedPiece.word (Mark.ofText spelling), MarkedPiece.word ms]) ?_
        exact List.forall_mem_cons.2 ⟨isFilled_word_ofText spelling, List.forall_mem_singleton.2 filled⟩
      · rw [spelled]
        refine Mirrors.ok (b := [MarkedPiece.word (Mark.ofText spelling)]) ?_
        exact List.forall_mem_singleton.2 (isFilled_word_ofText spelling)

/-- The marked pieces are the pieces of the built command in more detail. -/
theorem pieces_mirrors (executable : s.mode = .executable) (escapes : s.escapeValues = true) :
    Mirrors (List.map MarkedPiece.piece) (fun ps => ∀ p ∈ ps, p.IsFilled) (pieces d s) (markedPieces d s) := by
  unfold pieces markedPieces
  dsimp only
  refine (Mirrors.mapM fun o _ => optionPieces_mirrors executable escapes _ o).bind fun options filledOptions => ?_
  refine (Mirrors.mapM fun t _ => tokenPiece_mirrors executable escapes t).bind fun rest filledRest => ?_
  refine (Mirrors.mapM fun p _ => parameterText?_mirrors executable escapes p).bind fun parameters filledParameters => ?_
  refine (Mirrors.mapM fun t _ => tokenPiece_mirrors executable escapes t).bind fun tail filledTail => ?_
  have spelled (names : List String) :
      names.map word = (names.map (MarkedPiece.word ∘ Mark.ofText)).map MarkedPiece.piece := by
    simp [word, MarkedPiece.piece]
  have unmentionedWords : ((parameters.map (Option.map Mark.text)).filterMap id).map word =
      ((parameters.filterMap id).map MarkedPiece.word).map MarkedPiece.piece := by
    induction parameters with
    | nil => rfl
    | cons ms? parameters ih =>
      have others := ih fun ps member => filledParameters ps (List.mem_cons_of_mem _ member)
      cases ms? <;> simp_all [word, MarkedPiece.piece]
  have trailing : s.trailing.flatMap trailingPieces =
      ((s.trailing.flatMap trailingPieces).map MarkedPiece.ofPiece).map MarkedPiece.piece := by
    simp [Function.comp_def, MarkedPiece.piece_ofPiece]
  refine ⟨congrArg Except.ok ?_, fun ps same p member => ?_⟩
  · simp only [List.map_append, List.map_flatten, ← spelled, ← unmentionedWords, ← trailing]
  cases same
  simp only [List.mem_append] at member
  rcases member with ((((head | option) | middle) | parameter) | last) | trailing
  · obtain ⟨name, _, rfl⟩ := List.mem_map.1 head
    exact isFilled_word_ofText name
  · obtain ⟨ps, inside, member⟩ := List.mem_flatten.1 option
    exact filledOptions ps inside p member
  · exact filledRest p middle
  · obtain ⟨ms, inside, rfl⟩ := List.mem_map.1 parameter
    exact filledParameters (some ms) (by simpa using inside) ms rfl
  · exact filledTail p last
  · obtain ⟨piece, _, rfl⟩ := List.mem_map.1 trailing
    exact MarkedPiece.isFilled_ofPiece piece

theorem marks_eq_ok_iff {ms : List Mark} : marks d s = .ok ms ↔
    checkReferences d s = .ok () ∧ ∃ ps, markedPieces d s = .ok ps ∧ ms = MarkedPiece.join ps := by
  unfold marks
  rw [bind_eq_ok_iff]
  constructor
  · rintro ⟨_, references, made⟩
    obtain ⟨ps, pieces, same⟩ := bind_eq_ok_iff.1 made
    exact ⟨references, ps, pieces, (Except.ok.inj same).symm⟩
  · rintro ⟨references, ps, pieces, rfl⟩
    exact ⟨(), references, bind_eq_ok_iff.2 ⟨ps, pieces, rfl⟩⟩

/-- The marks stand for the built command. -/
theorem build_eq_ok_iff_marks (executable : s.mode = .executable) (escapes : s.escapeValues = true) {built : String} :
    d.build s = .ok (some built) ↔ ∃ ms, marks d s = .ok ms ∧ Mark.text ms = built := by
  obtain ⟨same, filled⟩ := pieces_mirrors (d := d) executable escapes
  rw [build_eq_ok_iff executable, same]
  constructor
  · rintro ⟨references, ps, pieces, made⟩
    cases marked : markedPieces d s with
    | error e =>
      rw [marked] at pieces
      cases pieces
    | ok qs =>
      rw [marked] at pieces
      cases pieces
      refine ⟨_, marks_eq_ok_iff.2 ⟨references, qs, marked, rfl⟩, ?_⟩
      rw [MarkedPiece.text_join (filled qs marked)]
      exact (Option.some.inj made).symm
  · rintro ⟨ms, made, rfl⟩
    obtain ⟨references, qs, marked, rfl⟩ := marks_eq_ok_iff.1 made
    refine ⟨references, qs.map MarkedPiece.piece, ?_, ?_⟩
    · rw [marked]
      rfl
    · rw [MarkedPiece.text_join (filled qs marked)]

theorem allFilled_of_marks (executable : s.mode = .executable) (escapes : s.escapeValues = true) {ms : List Mark}
    (made : marks d s = .ok ms) : AllFilled ms := by
  obtain ⟨_, ps, pieces, rfl⟩ := marks_eq_ok_iff.1 made
  exact MarkedPiece.isFilled_join ((pieces_mirrors executable escapes).sound ps pieces)

end

end Build

end ShellTemplate
