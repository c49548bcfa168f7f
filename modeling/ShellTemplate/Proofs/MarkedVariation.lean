import ShellTemplate.Proofs.MarkedBuild
import ShellTemplate.Proofs.SelectionVariation

namespace ShellTemplate

open Assignments

variable {f : String → String}

@[simp] theorem Mark.map_mapValue_ofText (text : String) : (ofText text).map (mapValue f) = ofText text := by
  rw [ofText, List.map_map]
  rfl

namespace MarkedPiece

def mapValues (f : String → String) : MarkedPiece → MarkedPiece
  | .operator text => .operator text
  | .word marks => .word (marks.map (Mark.mapValue f))

theorem marks_mapValues (p : MarkedPiece) : (p.mapValues f).marks = p.marks.map (Mark.mapValue f) := by
  cases p with
  | operator text => exact (Mark.map_mapValue_ofText text).symm
  | word marks => rfl

theorem mapValues_ofPiece (p : Piece) : (ofPiece p).mapValues f = ofPiece p := by
  unfold ofPiece
  split
  · rfl
  · exact congrArg word (Mark.map_mapValue_ofText p.text)

theorem spaceBefore_mapValues (p : MarkedPiece) : (p.mapValues f).piece.spaceBefore = p.piece.spaceBefore := by
  cases p <;> rfl

theorem spaceAfter_mapValues (p : MarkedPiece) : (p.mapValues f).piece.spaceAfter = p.piece.spaceAfter := by
  cases p <;> rfl

theorem joinAfter_mapValues (previous : MarkedPiece) (ps : List MarkedPiece) :
    joinAfter (previous.mapValues f) (ps.map (mapValues f)) = (joinAfter previous ps).map (Mark.mapValue f) := by
  induction ps generalizing previous with
  | nil => rfl
  | cons p rest ih =>
    rw [List.map_cons, joinAfter, joinAfter, spaceAfter_mapValues, spaceBefore_mapValues, marks_mapValues, ih,
      List.map_append, List.map_append]
    split <;> rfl

theorem join_mapValues (ps : List MarkedPiece) :
    join (ps.map (mapValues f)) = (join ps).map (Mark.mapValue f) := by
  have empty (p : MarkedPiece) : (p.mapValues f).isEmpty = p.isEmpty := by
    rw [isEmpty, isEmpty, marks_mapValues, List.isEmpty_map]
  have same : (ps.map (mapValues f)).filter (fun p => !p.isEmpty) = (ps.filter fun p => !p.isEmpty).map (mapValues f) := by
    rw [List.filter_map]
    exact congrArg (List.map (mapValues f)) (List.filter_congr fun p _ => congrArg not (empty p))
  rw [join, join, same]
  cases ps.filter fun p => !p.isEmpty with
  | nil => rfl
  | cons p rest =>
    rw [List.map_cons]
    dsimp only
    rw [marks_mapValues, joinAfter_mapValues, List.map_append]

end MarkedPiece

namespace Build

variable {d : Definition} {s : Selection}

theorem checkReferences_mapValues : checkReferences d (s.mapValues f) = checkReferences d s := by
  simp only [checkReferences, Selection.mapValues, names_mapFilled]

/-- The computation makes the same but for the texts of the values. -/
def Varies {β : Type} (change : β → β) (x y : Except BuildError β) : Prop :=
  Mirrors change (fun _ => True) x y

theorem varies_ofText (x : Except BuildError String) :
    Varies (List.map (Mark.mapValue f)) (x.map Mark.ofText) (x.map Mark.ofText) := by
  cases x with
  | error e => exact Mirrors.error e
  | ok text => exact ⟨congrArg Except.ok (Mark.map_mapValue_ofText text).symm, fun _ _ => trivial⟩

theorem occurrenceMarks_varies (keeps : Keeps f) (word : String) (p : Placeholder) :
    Varies (List.map (Mark.mapValue f)) (occurrenceMarks d (s.mapValues f) word p) (occurrenceMarks d s word p) := by
  unfold occurrenceMarks
  rw [Selection.value?_mapValues keeps]
  cases given : s.value? p.name with
  | some value => exact Mirrors.ok (b := [Mark.value _ value]) trivial
  | none =>
    have same : occurrenceText d (s.mapValues f) word p = occurrenceText d s word p := by
      simp only [occurrenceText, occurrenceValue?, Selection.value?_mapValues keeps, given, Option.map_none]
      rfl
    rw [Option.map_none, same]
    exact varies_ofText _

theorem fillMarks_varies (keeps : Keeps f) (word : String) (position : Nat) (cs : List Char) :
    Varies (List.map (Mark.mapValue f)) (fillMarks d (s.mapValues f) word position cs)
      (fillMarks d s word position cs) := by
  fun_induction Placeholder.scanFrom position cs with
  | case1 position cs name kind after found stop ih =>
    rw [fillMarks_of_leading? found, fillMarks_of_leading? found]
    refine (occurrenceMarks_varies keeps word _).bind fun ms _ => ?_
    refine ih.bind fun more _ => ?_
    rw [← List.map_append]
    exact Mirrors.ok trivial
  | case2 =>
    rw [fillMarks_nil, fillMarks_nil]
    exact Mirrors.ok (b := []) trivial
  | case3 position c rest none ih =>
    rw [fillMarks_of_none none, fillMarks_of_none none]
    refine ih.bind fun more _ => ?_
    exact Mirrors.ok (b := Mark.fixed c :: more) trivial

theorem wordMarks_varies (keeps : Keeps f) (t : Token) :
    Varies (List.map (Mark.mapValue f)) (wordMarks d (s.mapValues f) t) (wordMarks d s t) := by
  unfold wordMarks
  split
  · exact varies_ofText (.ok t.text)
  · exact fillMarks_varies keeps t.text 0 t.text.toList

theorem markedToken_varies (keeps : Keeps f) (t : Token) :
    Varies (MarkedPiece.mapValues f) (markedToken d (s.mapValues f) t) (markedToken d s t) := by
  unfold markedToken
  split
  · exact Mirrors.ok (b := MarkedPiece.operator t.text) trivial
  · exact (wordMarks_varies keeps t).map (fun _ => rfl) fun _ _ => trivial

theorem optionMarks_varies (keeps : Keeps f) (o : CommandOption) :
    Varies (List.map (Mark.mapValue f)) (optionMarks d (s.mapValues f) o) (optionMarks d s o) := by
  unfold optionMarks
  have moved : ((s.mapValues f).optionValue? o).or ((d.optionParameter? o).bind fun p => (s.mapValues f).value? p.name) =
      ((s.optionValue? o).or ((d.optionParameter? o).bind fun p => s.value? p.name)).map f := by
    simp only [Selection.optionValue?_mapValues keeps, Selection.value?_mapValues keeps, Option.map_or, Option.map_bind]
    rfl
  rw [moved]
  cases given : (s.optionValue? o).or ((d.optionParameter? o).bind fun p => s.value? p.name) with
  | some value => exact Mirrors.ok (b := [Mark.value .unquoted value]) trivial
  | none =>
    have same : optionText d (s.mapValues f) o = optionText d s o := by
      obtain ⟨own, bound⟩ := Option.or_eq_none_iff.1 given
      have value? : optionValue? (s.mapValues f) o (d.optionParameter? o) = optionValue? s o (d.optionParameter? o) := by
        rw [optionValue?, optionValue?, Selection.optionValue?_mapValues keeps, own, Option.map_none]
        cases parameter : d.optionParameter? o with
        | none => rfl
        | some p =>
          have unset : s.value? p.name = none := by simpa [parameter] using bound
          simp only [Option.bind_some, Selection.value?_mapValues keeps, unset, Option.map_none]
          rfl
      simp only [optionText, value?]
      rfl
    rw [Option.map_none, same]
    exact varies_ofText _

theorem parameterMarks?_varies (keeps : Keeps f) (p : Parameter) :
    Varies (Option.map (List.map (Mark.mapValue f))) (parameterMarks? (s.mapValues f) p) (parameterMarks? s p) := by
  unfold parameterMarks?
  rw [Selection.value?_mapValues keeps]
  cases given : s.value? p.name with
  | some value => exact Mirrors.ok (b := some [Mark.value .unquoted value]) trivial
  | none =>
    have same : parameterText? (s.mapValues f) p = parameterText? s p := by
      simp only [parameterText?, Selection.value?_mapValues keeps, given, Option.map_none]
      rfl
    rw [Option.map_none, same]
    cases parameterText? s p with
    | error e => exact Mirrors.error e
    | ok text? => cases text? <;> exact ⟨by simp [Except.map], fun _ _ => trivial⟩

theorem markedOption_varies (keeps : Keeps f) (first : List Token) (o : CommandOption) :
    Varies (List.map (MarkedPiece.mapValues f)) (markedOption d (s.mapValues f) first o)
      (markedOption d s first o) := by
  have spelled (spelling : String) : MarkedPiece.word (Mark.ofText spelling) =
      (MarkedPiece.word (Mark.ofText spelling)).mapValues f :=
    congrArg MarkedPiece.word (Mark.map_mapValue_ofText spelling).symm
  unfold markedOption
  rw [show (s.mapValues f).selectedSpelling? o = s.selectedSpelling? o from rfl]
  cases s.selectedSpelling? o with
  | none => exact Mirrors.ok (b := []) trivial
  | some spelling =>
    dsimp only
    split
    · exact Mirrors.ok (b := []) trivial
    · split
      · refine (optionMarks_varies keeps o).bind fun ms _ => ⟨congrArg Except.ok ?_, fun _ _ => trivial⟩
        exact congrArg (· :: [_]) (spelled spelling)
      · exact ⟨congrArg (Except.ok [·]) (spelled spelling), fun _ _ => trivial⟩

theorem Varies.mapM {ε β : Type} {change : β → β} {g h : ε → Except BuildError β}
    (varies : ∀ x, Varies change (g x) (h x)) (xs : List ε) :
    Varies (List.map change) (xs.mapM g) (xs.mapM h) :=
  ⟨(Mirrors.mapM fun x _ => varies x).same, fun _ _ => trivial⟩

theorem markedPieces_varies (keeps : Keeps f) :
    Varies (List.map (MarkedPiece.mapValues f)) (markedPieces d (s.mapValues f)) (markedPieces d s) := by
  unfold markedPieces
  dsimp only
  rw [addSubcommands_congr (show (s.mapValues f).escapeValues = s.escapeValues from rfl)]
  refine (Varies.mapM (markedOption_varies keeps _) _).bind fun options _ => ?_
  refine (Varies.mapM (markedToken_varies keeps) _).bind fun rest _ => ?_
  refine (Varies.mapM (parameterMarks?_varies keeps) _).bind fun parameters _ => ?_
  refine (Varies.mapM (markedToken_varies keeps) _).bind fun tail _ => ?_
  have spelled (names : List String) : (names.map (MarkedPiece.word ∘ Mark.ofText)).map (MarkedPiece.mapValues f) =
      names.map (MarkedPiece.word ∘ Mark.ofText) := by
    simp [MarkedPiece.mapValues]
  have trailing (ps : List Piece) : (ps.map MarkedPiece.ofPiece).map (MarkedPiece.mapValues f) =
      ps.map MarkedPiece.ofPiece := by
    rw [List.map_map]
    exact List.map_congr_left fun p _ => MarkedPiece.mapValues_ofPiece p
  have unmentionedWords : ((parameters.map (Option.map (List.map (Mark.mapValue f)))).filterMap id).map MarkedPiece.word =
      ((parameters.filterMap id).map MarkedPiece.word).map (MarkedPiece.mapValues f) := by
    induction parameters with
    | nil => rfl
    | cons ms? parameters ih => cases ms? <;> simp_all [MarkedPiece.mapValues]
  refine ⟨congrArg Except.ok ?_, fun _ _ => trivial⟩
  simp only [List.map_append, List.map_flatten, spelled, trailing, ← unmentionedWords]
  rfl

theorem marks_mapValues (keeps : Keeps f) (d : Definition) (s : Selection) :
    marks d (s.mapValues f) = (marks d s).map (List.map (Mark.mapValue f)) := by
  unfold marks
  rw [checkReferences_mapValues, (markedPieces_varies keeps).same]
  cases checkReferences d s with
  | error e => rfl
  | ok _ =>
    cases markedPieces d s with
    | error e => rfl
    | ok ps => exact congrArg Except.ok (MarkedPiece.join_mapValues ps)

end Build

end ShellTemplate
