import ShellTemplate.Proofs.FaithfulSubstitution
import ShellTemplate.Proofs.LaidOutPieces
import ShellTemplate.Proofs.RedirectTargets

namespace ShellTemplate

namespace Build

/-- A piece of a build with the token of the template that it is built from. A parameter that the template never
mentions has none. -/
structure Entry where
  token? : Option Token
  piece : Piece

namespace Entry

def ofToken (d : Definition) (s : Selection) (t : Token) : Entry :=
  ⟨some t, (tokenPiece d s t).toOption.getD (word "")⟩

end Entry

/-- What a build lays out if nothing is selected. -/
def entries (d : Definition) (s : Selection) : List Entry :=
  (firstTokens d).map (Entry.ofToken d s) ++
    (((unmentioned d).filterMap fun p => (parameterText? s p).toOption.join).map (fun text => ⟨none, word text⟩) ++
      (otherTokens d).map (Entry.ofToken d s))

/-- Of what is laid out, each word alone is one word where it stands, and no name in angle brackets stands right before
`;`. -/
def laysOutWhole (d : Definition) (s : Selection) : Bool :=
  Piece.areWhole (((entries d s).map Entry.piece).filter fun p => !p.text.isEmpty)

namespace Entry

variable {d : Definition} {s : Selection}

/-- The entries of a build. A parameter that the template never mentions stands before no word of the template. -/
inductive LaidOut (d : Definition) (s : Selection) : List Entry → Prop
  | done : LaidOut d s []
  | token {t p es} : t ∈ Token.scan d.command → tokenPiece d s t = .ok p → LaidOut d s es →
      LaidOut d s (⟨some t, p⟩ :: es)
  | added {text es} : Token.leadingWord? (es.filterMap Entry.token?) = none → LaidOut d s es →
      LaidOut d s (⟨none, word text⟩ :: es)

theorem LaidOut.tokens {ts : List Token} {es : List Entry} {ps : List Piece}
    (inside : ∀ t ∈ ts, t ∈ Token.scan d.command) (made : ts.mapM (tokenPiece d s) = .ok ps) (laidOut : LaidOut d s es) :
    LaidOut d s (ts.map (ofToken d s) ++ es) ∧ (ts.map (ofToken d s)).map Entry.piece = ps := by
  have each := mapM_eq_ok_iff.1 made
  clear made
  induction each with
  | nil => exact ⟨laidOut, rfl⟩
  | @cons t p ts ps first _ ih =>
    obtain ⟨here, later⟩ := List.forall_mem_cons.1 inside
    obtain ⟨rest, pieces⟩ := ih later
    have entry : ofToken d s t = ⟨some t, p⟩ := by rw [ofToken, first]; rfl
    rw [List.map_cons, entry]
    exact ⟨.token here first rest, by rw [List.map_cons, pieces]⟩

theorem filterMap_token?_tokens (ts : List Token) : (ts.map (ofToken d s)).filterMap Entry.token? = ts := by
  rw [List.filterMap_map]
  exact List.filterMap_some

theorem LaidOut.words {es : List Entry} (apart : Token.leadingWord? (es.filterMap Entry.token?) = none)
    (laidOut : LaidOut d s es) (texts : List String) :
    LaidOut d s (texts.map (fun text => ⟨none, word text⟩) ++ es) := by
  induction texts with
  | nil => exact laidOut
  | cons text texts ih =>
    have unnamed : (texts.map (fun text => (⟨none, word text⟩ : Entry)) ++ es).filterMap Entry.token? =
        es.filterMap Entry.token? := by simp [List.filterMap_append]
    exact .added ((congrArg Token.leadingWord? unnamed).trans apart) ih

/-- Operators of a build are operators of the template. -/
theorem LaidOut.exists_firm {es : List Entry} (laidOut : LaidOut d s es) :
    ∀ e ∈ es, e.piece.isOperator = true → ∃ t : Token, t.IsFirm ∧ t.piece = e.piece := by
  induction laidOut with
  | done => exact fun _ member => absurd member List.not_mem_nil
  | @token t p es member made _ ih =>
    refine List.forall_mem_cons.2 ⟨fun operator => ?_, ih⟩
    cases separator : t.isSeparator with
    | true =>
      cases tokenPiece_of_separator separator made
      exact ⟨t, Token.isFirm_of_isSeparator member separator, rfl⟩
    | false =>
      obtain ⟨text, _, rfl⟩ := tokenPiece_of_word separator made
      exact absurd operator Bool.false_ne_true
  | added _ _ ih => exact List.forall_mem_cons.2 ⟨fun operator => absurd operator Bool.false_ne_true, ih⟩

end Entry

section

variable {d : Definition} {s : Selection}

/-- The template goes on with an operator, if it does. -/
theorem leadingWord?_otherTokens (d : Definition) : Token.leadingWord? (otherTokens d) = none := by
  unfold otherTokens
  cases rest : (Token.scan d.command).dropWhile fun t => !t.isControl with
  | nil => rfl
  | cons t more =>
    have control : t.isControl = true := by
      have head := List.head?_dropWhile_not (fun t : Token => !t.isControl) (Token.scan d.command)
      rw [rest] at head
      simpa using head
    rw [Token.leadingWord?, (Bool.and_eq_true_iff.1 control).1, if_pos rfl]

theorem toOption_parameterTexts {ps : List Parameter} {texts : List (Option String)}
    (made : ps.mapM (parameterText? s) = .ok texts) :
    (ps.filterMap fun p => (parameterText? s p).toOption.join) = texts.filterMap id := by
  have each := mapM_eq_ok_iff.1 made
  clear made
  induction each with
  | nil => rfl
  | @cons p text? ps texts first _ ih =>
    rw [List.filterMap_cons, List.filterMap_cons, first, ih]
    rfl

theorem entries_laidOut (noSubcommands : s.subcommands = []) (noOptions : s.options = {}) (noTrailing : s.trailing = [])
    {ps : List Piece} (made : pieces d s = .ok ps) :
    Entry.LaidOut d s (entries d s) ∧ (entries d s).map Entry.piece = ps := by
  obtain ⟨first, texts, others, firstMade, textsMade, othersMade, rfl⟩ :=
    (pieces_eq_ok_iff noSubcommands noOptions noTrailing).1 made
  have whole := firstTokens_append_otherTokens d
  obtain ⟨tail, tailPieces⟩ :=
    Entry.LaidOut.tokens (fun t member => whole ▸ List.mem_append_right _ member) othersMade .done
  rw [List.append_nil] at tail
  have apart : Token.leadingWord? (((otherTokens d).map (Entry.ofToken d s)).filterMap Entry.token?) = none := by
    rw [Entry.filterMap_token?_tokens]
    exact leadingWord?_otherTokens d
  have parameters := tail.words apart (texts.filterMap id)
  obtain ⟨laidOut, firstPieces⟩ :=
    Entry.LaidOut.tokens (fun t member => whole ▸ List.mem_append_left _ member) firstMade parameters
  rw [entries, toOption_parameterTexts textsMade]
  refine ⟨laidOut, ?_⟩
  rw [List.map_append, List.map_append, firstPieces, tailPieces, List.map_map, List.append_assoc]
  rfl

theorem filterMap_token?_entries (d : Definition) (s : Selection) :
    (entries d s).filterMap Entry.token? = Token.scan d.command := by
  rw [entries, List.filterMap_append, List.filterMap_append, Entry.filterMap_token?_tokens,
    Entry.filterMap_token?_tokens, List.filterMap_map, ← firstTokens_append_otherTokens d]
  simp

/-- A build with nothing selected is read back exactly if what the template lays out for it is whole. -/
theorem readBack_iff_laysOutWhole (noSubcommands : s.subcommands = []) (noOptions : s.options = {})
    (noTrailing : s.trailing = []) {ps : List Piece} (made : pieces d s = .ok ps) :
    Piece.ReadBack ps ↔ laysOutWhole d s = true := by
  obtain ⟨laidOut, rfl⟩ := entries_laidOut noSubcommands noOptions noTrailing made
  refine Piece.readBack_iff fun p member => ?_
  obtain ⟨e, inside, rfl⟩ := List.mem_map.1 member
  exact laidOut.exists_firm e inside

end

end Build

end ShellTemplate
