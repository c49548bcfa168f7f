import ShellTemplate.Proofs.FaithfulSubstitution

namespace ShellTemplate

namespace Piece

/-- Empty pieces leave no trace. -/
theorem join_append_of_empty {front : List Piece} (empty : ∀ p ∈ front, p.text = "") (ps : List Piece) :
    join (front ++ ps) = join ps := by
  have nothing : front.filter (fun p => !p.text.isEmpty) = [] :=
    List.filter_eq_nil_iff.2 fun p member => by simp [empty p member]
  rw [join, List.filter_append, nothing, List.nil_append, join]

theorem prefix_join {text : String} (filled : text ≠ "") (ps : List Piece) :
    text.toList <+: (join (Build.word text :: ps)).toList := by
  have kept : (Build.word text :: ps).filter (fun p => !p.text.isEmpty) =
      Build.word text :: ps.filter fun p => !p.text.isEmpty :=
    List.filter_cons_of_pos (by simpa [Build.word] using filled)
  rw [join, kept]
  exact ⟨_, String.toList_append.symm⟩

end Piece

namespace Build

variable {d : Definition} {s : Selection}

/-- Nothing stands before the template: each selected subcommand is one of its words, and each selected option is
spelled in its first component. -/
structure AddsNothing (d : Definition) (s : Selection) : Prop where
  subcommands : ∀ name ∈ s.subcommands, name = "" ∨ name ∈ (Token.scan d.command).map (·.value)
  options : ∀ o ∈ d.options, (s.selectedSpelling? o).isSome = true → isSpelledIn (firstTokens d) o = true

/-- The words so far stay in front, and each word behind them is a selected subcommand that no token of the template
is. -/
theorem addSubcommands_eq (values words names : List String) :
    ∃ more, addSubcommands s values words names = words ++ more ∧
      ∀ w ∈ more, ∃ name ∈ names, name ∉ values ∧ w = escaped s .unquoted name := by
  induction names generalizing words with
  | nil => exact ⟨[], (List.append_nil words).symm, fun _ member => absurd member List.not_mem_nil⟩
  | cons name names ih =>
    have later {more : List String} (added : ∀ w ∈ more, ∃ name ∈ names, name ∉ values ∧ w = escaped s .unquoted name) :
        ∀ w ∈ more, ∃ n ∈ name :: names, n ∉ values ∧ w = escaped s .unquoted n := by
      intro w member
      obtain ⟨n, inside, rest⟩ := added w member
      exact ⟨n, List.mem_cons_of_mem _ inside, rest⟩
    rw [addSubcommands]
    split
    · obtain ⟨more, whole, added⟩ := ih words
      exact ⟨more, whole, later added⟩
    · rename_i new
      obtain ⟨more, whole, added⟩ := ih (words ++ [escaped s .unquoted name])
      refine ⟨escaped s .unquoted name :: more, by rw [whole, List.append_assoc]; rfl, ?_⟩
      refine List.forall_mem_cons.2 ⟨⟨name, List.mem_cons_self, ?_, rfl⟩, later added⟩
      simp only [Bool.or_eq_true, List.contains_iff_mem, not_or] at new
      exact new.1

theorem escaped_unquoted_empty : escaped s .unquoted "" = "" := by
  unfold escaped
  split <;> rfl

/-- What a build lays out begins with the head of the template, the selected subcommands, the selected options and the
rest of the first component. -/
theorem pieces_begin {ps : List Piece} (made : pieces d s = .ok ps) :
    ∃ options rest more, d.options.mapM (optionPieces d s (firstTokens d)) = .ok options ∧
      ((firstTokens d).dropWhile isHeadWord).mapM (tokenPiece d s) = .ok rest ∧
      ps = (addSubcommands s ((Token.scan d.command).map (·.value)) (((firstTokens d).takeWhile isHeadWord).map (·.text))
        s.subcommands).map word ++ (options.flatten ++ (rest ++ more)) := by
  unfold pieces at made
  dsimp only at made
  obtain ⟨options, optionsMade, made⟩ := bind_eq_ok_iff.1 made
  obtain ⟨rest, restMade, made⟩ := bind_eq_ok_iff.1 made
  obtain ⟨parameters, _, made⟩ := bind_eq_ok_iff.1 made
  obtain ⟨tail, _, made⟩ := bind_eq_ok_iff.1 made
  refine ⟨options, rest, (parameters.filterMap id).map word ++ (tail ++ s.trailing.flatMap trailingPieces), optionsMade,
    restMade, ?_⟩
  rw [← Except.ok.inj made]
  simp only [List.append_assoc]
  rfl

theorem AddsNothing.optionPieces_eq (nothing : AddsNothing d s) {o : CommandOption} (declared : o ∈ d.options) :
    optionPieces d s (firstTokens d) o = .ok [] := by
  have spelled := nothing.options o declared
  rw [optionPieces]
  cases selected : s.selectedSpelling? o with
  | none => rfl
  | some spelling =>
    rw [selected] at spelled
    rw [spelled rfl]
    rfl

/-- Subcommands that are added have no name. -/
theorem AddsNothing.eq_empty (nothing : AddsNothing d s) {w : String}
    (added : ∃ name ∈ s.subcommands, name ∉ (Token.scan d.command).map (·.value) ∧ w = escaped s .unquoted name) : w = "" := by
  obtain ⟨name, selected, absent, rfl⟩ := added
  rw [(nothing.subcommands name selected).resolve_right absent, escaped_unquoted_empty]

theorem not_isControl_of_word {t : Token} (plain : t.isSeparator = false) : t.isControl = false := by
  simp [Token.isControl, plain]

/-- The pieces of a build begin with the first word of the template. -/
theorem exists_word_of_pieces {t : Token} {ts : List Token} {text : String} {ps : List Piece}
    (scanned : Token.scan d.command = t :: ts) (plain : t.isSeparator = false) (written : wordText d s t = .ok text)
    (placed : isHeadWord t = true ∨ AddsNothing d s) (made : pieces d s = .ok ps) :
    ∃ front back, ps = front ++ word text :: back ∧ ∀ p ∈ front, p.text = "" := by
  have first : firstTokens d = t :: ts.takeWhile fun t => !t.isControl := by
    rw [firstTokens, scanned, List.takeWhile_cons_of_pos (by rw [not_isControl_of_word plain]; rfl)]
  obtain ⟨options, rest, more, optionsMade, restMade, rfl⟩ := pieces_begin made
  cases head : isHeadWord t with
  | true =>
    have own : wordText d s t = .ok t.text := by simp [wordText, (Bool.and_eq_true_iff.1 head).2]
    cases Except.ok.inj (written.symm.trans own)
    obtain ⟨added, whole, _⟩ := @addSubcommands_eq s ((Token.scan d.command).map (·.value))
      (((firstTokens d).takeWhile isHeadWord).map (·.text)) s.subcommands
    rw [first, List.takeWhile_cons_of_pos head, List.map_cons, List.cons_append] at whole
    rw [first, List.takeWhile_cons_of_pos head, List.map_cons, whole]
    exact ⟨[], _, rfl, fun _ member => absurd member List.not_mem_nil⟩
  | false =>
    have nothing : AddsNothing d s := placed.resolve_left (by simp [head])
    have notHead : ¬ isHeadWord t = true := by simp [head]
    obtain ⟨_, unselected, none⟩ := mapM_eq_nothing fun o (declared : o ∈ d.options) => nothing.optionPieces_eq declared
    cases Except.ok.inj (optionsMade.symm.trans unselected)
    obtain ⟨added, whole, own⟩ := @addSubcommands_eq s ((Token.scan d.command).map (·.value)) [] s.subcommands
    rw [first, List.dropWhile_cons_of_neg notHead, mapM_eq_ok_iff, List.forall₂_cons_left_iff] at restMade
    obtain ⟨p, others, piece, _, rfl⟩ := restMade
    rw [tokenPiece, plain, written] at piece
    cases Except.ok.inj piece
    rw [first, List.takeWhile_cons_of_neg notHead, List.map_nil, whole, none]
    refine ⟨added.map word, others ++ more, rfl, List.forall_mem_map.2 fun w member => nothing.eq_empty (own w member)⟩

end Build

namespace Definition

open Build

/-- The first word of the template comes first in the built command, unless the documented order puts the selection
before it: behind a head of literal words, which is empty if the template begins with another word. -/
theorem build_begins {d : Definition} {s : Selection} {t : Token} {text built : String}
    (first : (Token.scan d.command).head? = some t) (plain : t.isSeparator = false) (written : wordText d s t = .ok text)
    (filled : text ≠ "") (placed : isHeadWord t = true ∨ AddsNothing d s) (done : d.build s = .ok (some built)) :
    text.toList <+: built.toList ∧ ∃ ps, built = Piece.join (word text :: ps) := by
  obtain ⟨ts, scanned⟩ := List.head?_eq_some_iff.1 first
  obtain ⟨ps, made, rfl⟩ := pieces_of_build done
  obtain ⟨front, back, rfl, empty⟩ := exists_word_of_pieces scanned plain written placed made
  rw [Piece.join_append_of_empty empty]
  exact ⟨Piece.prefix_join filled back, back, rfl⟩

/-- A selected subcommand and a selected option stand behind the head. -/
theorem build_begins_of_push :
    let d : Definition :=
      { name := "push", command := "git push \x7b\x7bbranch\x7d\x7d", parameters := [{ name := "branch" }]
        options := [{ flag? := some "--force" }] }
    let s : Selection :=
      { mode := .executable, subcommands := ["origin"], options := SortedList.empty.insert "--force"
        parameterValues := SortedList.empty.insert ("branch", "main") }
    d.build s = .ok (some "git push origin --force main") ∧ "git".toList <+: "git push origin --force main".toList := by
  intro d s
  have done : d.build s = .ok (some "git push origin --force main") := Build.eq_ok_of_toOption (by decide +kernel)
  have first : (Token.scan d.command).head? = some ⟨.argument, "git", "git", ⟨0, 3⟩, {}⟩ := by decide +kernel
  exact ⟨done, (build_begins first rfl rfl (by decide) (Or.inl rfl) done).1⟩

/-- A first word that is a placeholder is no head, so that a selected option stands before it. -/
theorem build_begins_with_option :
    let d : Definition :=
      { name := "make", command := "\x7b\x7btool\x7d\x7d build", parameters := [{ name := "tool" }]
        options := [{ flag? := some "-v" }] }
    let s : Selection :=
      { mode := .executable, options := SortedList.empty.insert "-v"
        parameterValues := SortedList.empty.insert ("tool", "make") }
    ∃ t, (Token.scan d.command).head? = some t ∧ t.isSeparator = false ∧ wordText d s t = .ok "make" ∧
      d.build s = .ok (some "-v make build") ∧ ¬ "make".toList <+: "-v make build".toList := by
  intro d s
  refine ⟨⟨.parameter, "\x7b\x7btool\x7d\x7d", "\x7b\x7btool\x7d\x7d", ⟨0, 8⟩, { isRequired := true, isPlaceholder := true }⟩,
    by decide +kernel, rfl, Build.eq_ok_of_toOption (by decide +kernel), Build.eq_ok_of_toOption (by decide +kernel), ?_⟩
  decide

end Definition

end ShellTemplate
