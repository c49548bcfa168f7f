import ShellTemplate.Proofs.FaithfulSubstitution

namespace ShellTemplate

/-- The same choices with other values, and other rules about values. -/
def Selection.withValues (s : Selection) (parameterValues optionValues : Assignments)
    (useDefaults validateRequired : Bool) : Selection :=
  { s with parameterValues, optionValues, useDefaults, validateRequired }

namespace Build

/-- A word of the template in a template that is built from it: a word that is one placeholder tells whether it
must be filled. -/
def shownWord (d : Definition) (t : Token) : String :=
  if t.flags.isPlaceholder then
    match Placeholder.ofText? t.text with
    | some p => Placeholder.shown p.name (p.mustBeFilled (d.findParameter? p.name))
    | none => t.text
  else t.text

def shownPiece (d : Definition) (t : Token) : Piece :=
  if t.isSeparator then ⟨t.text, true⟩ else word (shownWord d t)

/-- A selected option with the placeholder of its value. -/
def shownOption (d : Definition) (s : Selection) (first : List Token) (o : CommandOption) : List Piece :=
  match s.selectedSpelling? o with
  | none => []
  | some spelling =>
    if isSpelledIn first o then []
    else if o.hasValue then [word spelling, word (Placeholder.shown (valueName o (d.optionParameter? o)) true)]
    else [word spelling]

/-- The pieces of a template, in which a placeholder stands for every value. -/
def shownPieces (d : Definition) (s : Selection) : List Piece :=
  (addSubcommands s ((Token.scan d.command).map (·.value)) (((firstTokens d).takeWhile isHeadWord).map (·.text))
      s.subcommands).map word ++
    (d.options.map (shownOption d s (firstTokens d))).flatten ++
    ((firstTokens d).dropWhile isHeadWord).map (shownPiece d) ++
    ((unmentioned d).map fun p => Placeholder.shown p.name p.isRequired).map word ++
    (otherTokens d).map (shownPiece d) ++ s.trailing.flatMap trailingPieces

section

variable {d : Definition} {s : Selection} (template : s.mode = .template)

include template

theorem wordText_template (t : Token) : wordText d s t = .ok (shownWord d t) := by
  rw [wordText, shownWord, template]
  cases t.flags.isPlaceholder with
  | false => rfl
  | true => cases Placeholder.ofText? t.text <;> rfl

theorem tokenPiece_template (t : Token) : tokenPiece d s t = .ok (shownPiece d t) := by
  rw [tokenPiece, shownPiece, wordText_template template]
  split <;> rfl

theorem optionPieces_template (first : List Token) (o : CommandOption) :
    optionPieces d s first o = .ok (shownOption d s first o) := by
  have text : optionText d s o = .ok (Placeholder.shown (valueName o (d.optionParameter? o)) true) := by
    rw [optionText, template]
    rfl
  rw [optionPieces, shownOption, text]
  cases s.selectedSpelling? o with
  | none => rfl
  | some spelling => cases isSpelledIn first o <;> cases o.hasValue <;> rfl

theorem parameterText?_template (p : Parameter) :
    parameterText? s p = .ok (some (Placeholder.shown p.name p.isRequired)) := by
  rw [parameterText?, template]
  rfl

/-- No word of a template can lack a value, and none asks for one. -/
theorem pieces_template (d : Definition) : pieces d s = .ok (shownPieces d s) := by
  have made {α β : Type} {f : α → Except BuildError β} {g : α → β} (each : ∀ x, f x = .ok (g x)) (xs : List α) :
      xs.mapM f = .ok (xs.map g) := by
    rw [mapM_eq_ok_iff, List.forall₂_map_right_iff, List.forall₂_same]
    exact fun x _ => each x
  have options := made (@optionPieces_template d s template (firstTokens d)) d.options
  have rest := made (@tokenPiece_template d s template) ((firstTokens d).dropWhile isHeadWord)
  have parameters := made (@parameterText?_template s template) (unmentioned d)
  have tail := made (@tokenPiece_template d s template) (otherTokens d)
  have texts : ((unmentioned d).map fun p => some (Placeholder.shown p.name p.isRequired)).filterMap id =
      (unmentioned d).map fun p => Placeholder.shown p.name p.isRequired := by
    rw [List.filterMap_map]
    exact congrFun List.filterMap_eq_map _
  rw [shownPieces, ← texts]
  exact bind_eq_ok_iff.2 ⟨_, options, bind_eq_ok_iff.2 ⟨_, rest, bind_eq_ok_iff.2 ⟨_, parameters,
    bind_eq_ok_iff.2 ⟨_, tail, rfl⟩⟩⟩⟩

end

/-- A template shows the choices alone. -/
theorem shownPieces_withValues (d : Definition) (s : Selection) (parameterValues optionValues : Assignments)
    (useDefaults validateRequired : Bool) :
    shownPieces d (s.withValues parameterValues optionValues useDefaults validateRequired) = shownPieces d s := by
  have added (values words names : List String) :
      addSubcommands (s.withValues parameterValues optionValues useDefaults validateRequired) values words names =
        addSubcommands s values words names := by
    induction names generalizing words with
    | nil => rfl
    | cons name names ih =>
      rw [addSubcommands, addSubcommands, ih, ih]
      rfl
  rw [shownPieces, added]
  rfl

theorem build_eq_shownPieces {d : Definition} {s : Selection} (template : s.mode = .template)
    (declared : checkReferences d s = .ok ()) : d.build s = .ok (some (Piece.join (shownPieces d s))) := by
  rw [Definition.build, declared, pieces_template template, template]
  rfl

/-- What is built in template mode is the same whatever values are given, and it is always built. -/
theorem build_template {d : Definition} {s : Selection} (template : s.mode = .template)
    (declared : checkReferences d s = .ok ()) :
    ∃ text, d.build s = .ok (some text) ∧
      ∀ parameterValues optionValues useDefaults validateRequired,
        checkReferences d (s.withValues parameterValues optionValues useDefaults validateRequired) = .ok () →
          d.build (s.withValues parameterValues optionValues useDefaults validateRequired) = .ok (some text) := by
  refine ⟨_, build_eq_shownPieces template declared,
    fun parameterValues optionValues useDefaults validateRequired declared' => ?_⟩
  rw [← shownPieces_withValues]
  exact build_eq_shownPieces template declared'

/-- With a host and a token, and with neither where both are needed, the same template is built. -/
theorem build_template_of_values :
    let d : Definition :=
      { name := "deploy", command := "deploy \x7b\x7bhost\x7d\x7d", parameters := [{ name := "host", required? := some true }]
        options := [{ longFlag? := some "--token", hasValue := true }] }
    let s : Selection :=
      { options := SortedList.empty.insert "--token", useDefaults := false
        parameterValues := SortedList.empty.insert ("host", "example.org")
        optionValues := SortedList.empty.insert ("--token", "secret") }
    s.mode = .template ∧ checkReferences d s = .ok () ∧
      d.build s = .ok (some "deploy --token \x7b\x7btoken\x7d\x7d \x7b\x7bhost\x7d\x7d") ∧
      d.build (s.withValues {} {} true true) = d.build s := by
  intro d s
  have declared : (checkReferences d s).toOption = some () := by decide +kernel
  have declared' : (checkReferences d (s.withValues {} {} true true)).toOption = some () := by decide +kernel
  have shown : (d.build s).toOption = some (some "deploy --token \x7b\x7btoken\x7d\x7d \x7b\x7bhost\x7d\x7d") := by
    decide +kernel
  obtain ⟨text, built, others⟩ := build_template (d := d) (s := s) rfl (eq_ok_of_toOption declared)
  refine ⟨rfl, eq_ok_of_toOption declared, eq_ok_of_toOption shown, ?_⟩
  rw [built, others {} {} true true (eq_ok_of_toOption declared')]

end Build

end ShellTemplate
