import ShellTemplate.Proofs.FaithfulSubstitution
import ShellTemplate.Proofs.RespelledSelections

namespace ShellTemplate

namespace Build

/-- A command line without its flags: the pieces before them, for each declared option the words that follow its
flag, if it has one there, and the pieces behind them. -/
structure Outline where
  front : List Piece
  tails : List (Option (List Piece))
  back : List Piece

/-- The words of an option. -/
def flagged (spelling? : Option String) (tail? : Option (List Piece)) : List Piece :=
  match spelling?, tail? with
  | some spelling, some tail => word spelling :: tail
  | _, _ => []

/-- The command line with the flags that the selection spells. -/
def Outline.pieces (outline : Outline) (d : Definition) (s : Selection) : List Piece :=
  outline.front ++ (List.zipWith (fun o => flagged (s.selectedSpelling? o)) d.options outline.tails).flatten ++
    outline.back

def Outline.text (outline : Outline) (d : Definition) (s : Selection) : String :=
  Piece.join (outline.pieces d s)

/-- The words that follow the flag of an option, if the flag is added to the template. -/
def tail? (d : Definition) (s : Selection) (first : List Token) (o : CommandOption) :
    Except BuildError (Option (List Piece)) :=
  if (s.selectedSpelling? o).isSome && !isSpelledIn first o then
    if o.hasValue then (optionText d s o).map fun text => some [word text] else .ok (some [])
  else .ok none

/-- The command line of a selection without its flags. -/
def outline (d : Definition) (s : Selection) : Except BuildError Outline := do
  let words := addSubcommands s ((Token.scan d.command).map (·.value))
    (((firstTokens d).takeWhile isHeadWord).map (·.text)) s.subcommands
  let tails ← d.options.mapM (tail? d s (firstTokens d))
  let rest ← ((firstTokens d).dropWhile isHeadWord).mapM (tokenPiece d s)
  let parameters ← (unmentioned d).mapM (parameterText? s)
  let others ← (otherTokens d).mapM (tokenPiece d s)
  return {
    front := words.map word
    tails
    back := rest ++ (parameters.filterMap id).map word ++ others ++ s.trailing.flatMap trailingPieces }

section

variable (d : Definition) (s : Selection)

theorem optionPieces_eq (first : List Token) (o : CommandOption) :
    optionPieces d s first o = (tail? d s first o).map (flagged (s.selectedSpelling? o)) := by
  unfold optionPieces tail?
  cases s.selectedSpelling? o with
  | none => rfl
  | some spelling =>
    cases isSpelledIn first o with
    | true => rfl
    | false =>
      cases o.hasValue with
      | false => rfl
      | true => cases optionText d s o <;> rfl

theorem mapM_map_eq {α β γ : Type} (f : α → Except BuildError β) (g : α → β → γ) (xs : List α) :
    (xs.mapM fun x => (f x).map (g x)) = (xs.mapM f).map (List.zipWith g xs) := by
  induction xs with
  | nil => rfl
  | cons x xs ih =>
    rw [List.mapM_cons, List.mapM_cons, ih]
    cases f x with
    | error e => rfl
    | ok y => cases xs.mapM f <;> rfl

theorem pieces_eq_outline : pieces d s = (outline d s).map (·.pieces d s) := by
  have options : d.options.mapM (optionPieces d s (firstTokens d)) =
      List.zipWith (fun o => flagged (s.selectedSpelling? o)) d.options <$> d.options.mapM (tail? d s (firstTokens d)) :=
    (congrArg (fun f => d.options.mapM f) (funext fun o => optionPieces_eq d s _ o)).trans (mapM_map_eq _ _ _)
  change (d.options.mapM (optionPieces d s (firstTokens d)) >>= _) = (fun made : Outline => made.pieces d s) <$> outline d s
  unfold outline
  simp only [options, map_bind, bind_map_left, map_pure]
  simp only [Outline.pieces, List.append_assoc]
  rfl

end

theorem mapM_congr {α β : Type} {f g : α → Except BuildError β} {xs : List α} (same : ∀ x ∈ xs, f x = g x) :
    xs.mapM f = xs.mapM g := by
  induction xs with
  | nil => rfl
  | cons x xs ih =>
    obtain ⟨head, tail⟩ := List.forall_mem_cons.1 same
    rw [List.mapM_cons, List.mapM_cons, head, ih tail]

/-- Of a selection, only what the placeholders stand for matters to a word. -/
theorem fillFrom_congr {d : Definition} {s t : Selection} {word : String}
    (same : ∀ p, occurrenceText d t word p = occurrenceText d s word p) (position : Nat) (cs : List Char) :
    fillFrom d t word position cs = fillFrom d s word position cs := by
  fun_induction Placeholder.scanFrom position cs with
  | case1 position cs name kind after found stop ih =>
    rw [fillFrom_of_leading? found, fillFrom_of_leading? found]
    dsimp only
    rw [same, ih]
  | case2 => rw [fillFrom_nil, fillFrom_nil]
  | case3 position c rest none ih => rw [fillFrom_of_none none, fillFrom_of_none none, ih]

section

variable {d : Definition} {s t : Selection} (respells : Selection.Respells d s t)

include respells

theorem tokenPiece_respelled (token : Token) : tokenPiece d t token = tokenPiece d s token := by
  have filled : fillFrom d t token.text 0 token.text.toList = fillFrom d s token.text 0 token.text.toList := by
    refine fillFrom_congr (fun p => ?_) 0 _
    rw [respells.eq_with]
    rfl
  unfold tokenPiece wordText
  rw [filled, respells.mode]

theorem optionValue?_respelled {o : CommandOption} (member : o ∈ d.options) (bound? : Option Parameter) :
    optionValue? t o bound? = optionValue? s o bound? := by
  have other : (bound?.bind fun p => (t.value? p.name).or (fallback? t p)) =
      bound?.bind fun p => (s.value? p.name).or (fallback? s p) := by
    rw [respells.eq_with]
    rfl
  unfold optionValue?
  rw [respells.optionValue? member, other]

theorem optionText_respelled {o : CommandOption} (member : o ∈ d.options) : optionText d t o = optionText d s o := by
  unfold optionText
  dsimp only
  rw [optionValue?_respelled respells member, respells.eq_with]
  rfl

theorem tail?_respelled {o : CommandOption} (member : o ∈ d.options) (first : List Token) :
    tail? d t first o = tail? d s first o := by
  unfold tail?
  rw [optionText_respelled respells member, respells.isSome_selectedSpelling? member]

/-- Without its flags, a command line does not tell how options are spelled. -/
theorem outline_respelled : outline d t = outline d s := by
  have tails := mapM_congr fun o member => tail?_respelled respells member (firstTokens d)
  have tokens : tokenPiece d t = tokenPiece d s := funext (tokenPiece_respelled respells)
  have parameters : parameterText? t = parameterText? s := by
    funext p
    rw [respells.eq_with]
    rfl
  have trailing : t.trailing = s.trailing := by rw [respells.eq_with]
  have subcommands : t.subcommands = s.subcommands := by rw [respells.eq_with]
  have escapes : t.escapeValues = s.escapeValues := by rw [respells.eq_with]
  unfold outline
  rw [tails, tokens, parameters, trailing, subcommands, addSubcommands_congr escapes]

/-- Whatever spellings are used, the same command line is built, each flag in its spelling. -/
theorem build_respelled : ∃ made : Except BuildError (Option Outline),
    d.build s = made.map (·.map (·.text d s)) ∧ d.build t = made.map (·.map (·.text d t)) := by
  unfold Definition.build
  rw [respells.checkReferences, respells.mode, pieces_eq_outline, pieces_eq_outline, outline_respelled respells]
  cases checkReferences d s with
  | error e => exact ⟨.error e, rfl, rfl⟩
  | ok _ =>
    cases s.mode == .validation with
    | true => exact ⟨.ok none, rfl, rfl⟩
    | false =>
      refine ⟨(outline d s).map some, ?_⟩
      cases outline d s <;> exact ⟨rfl, rfl⟩

end

end Build

end ShellTemplate
