import ShellTemplate.Proofs.FaithfulSubstitution
import ShellTemplate.Proofs.RenderOrder

namespace ShellTemplate

namespace Build

section

variable {d : Definition} {s : Selection}

/-- Filling leaves a text without placeholders as it is. -/
theorem fillFrom_of_scanFrom_eq_nil {word : String} {place position : Nat} {cs : List Char}
    (literal : Placeholder.scanFrom place cs = []) : fillFrom d s word position cs = .ok (String.ofList cs) := by
  induction cs generalizing place position with
  | nil => exact fillFrom_nil d s word position
  | cons c rest ih =>
    cases found : Placeholder.leading? (c :: rest) with
    | some result =>
      rw [Placeholder.scanFrom_of_leading? found] at literal
      exact absurd literal (List.cons_ne_nil _ _)
    | none =>
      rw [Placeholder.scanFrom_of_none found] at literal
      rw [fillFrom_of_none found, ih literal]
      exact congrArg Except.ok (String.toList_inj.1 (by simp))

theorem wordText_of_literal {t : Token} (literal : Placeholder.scan t.text = []) : wordText d s t = .ok t.text := by
  unfold wordText
  rw [Placeholder.ofText?, literal, fillFrom_of_scanFrom_eq_nil literal, String.ofList_toList]
  simp

theorem tokenPiece_of_literal {t : Token} (literal : Placeholder.scan t.text = []) : tokenPiece d s t = .ok t.piece := by
  cases operator : t.isSeparator <;> simp [tokenPiece, operator, wordText_of_literal literal, Token.piece, word, Except.map]

theorem mapM_of_literals {ts : List Token} (literal : ∀ t ∈ ts, Placeholder.scan t.text = []) :
    ts.mapM (tokenPiece d s) = .ok (ts.map Token.piece) := by
  rw [mapM_eq_ok_iff, List.forall₂_map_right_iff, List.forall₂_same]
  exact fun t member => tokenPiece_of_literal (literal t member)

theorem checkReferences_of_unselected (noOptions : s.options = {}) (noValues : s.parameterValues = {})
    (noOptionValues : s.optionValues = {}) (noTrailing : s.trailing = []) : checkReferences d s = .ok () := by
  rw [checkReferences, noOptions, noValues, noOptionValues, noTrailing]
  rfl

end

end Build

namespace Definition

open Build

/-- Where nothing is to be done, a build lays the template out anew. -/
theorem build_eq_render {d : Definition} {s : Selection} (noParameters : d.parameters = [])
    (literal : ∀ t ∈ Token.scan d.command, Placeholder.scan t.text = []) (noSubcommands : s.subcommands = [])
    (noOptions : s.options = {}) (noValues : s.parameterValues = {}) (noOptionValues : s.optionValues = {})
    (noTrailing : s.trailing = []) (builds : s.mode = .template ∨ s.mode = .executable) :
    d.build s = .ok (some (Structure.ofCommand d.command).render) := by
  have whole := firstTokens_append_otherTokens d
  have made : pieces d s = .ok ((Token.scan d.command).map Token.piece) := by
    refine (pieces_eq_ok_iff noSubcommands noOptions noTrailing).2 ⟨(firstTokens d).map Token.piece, [],
      (otherTokens d).map Token.piece, mapM_of_literals fun t member => literal t ?_, ?_,
      mapM_of_literals fun t member => literal t ?_, ?_⟩
    · exact whole ▸ List.mem_append_left _ member
    · rw [unmentioned, noParameters]
      rfl
    · exact whole ▸ List.mem_append_right _ member
    · rw [← whole, List.map_append, List.filterMap_nil, List.map_nil, List.append_nil]
  rw [Structure.render_ofCommand, build, checkReferences_of_unselected noOptions noValues noOptionValues noTrailing, made]
  rcases builds with mode | mode <;> simp [mode] <;> rfl

/-- A word that shows a placeholder only where its backslashes are gone, quotes and operators with and without blanks
around them. -/
theorem build_eq_render_of_quoted :
    let d : Definition :=
      { name := "list", command := "\x7b\\\x7bx\x7d\x7d a|b  ;c 2>&  1 'q w' &", options := [{ flag? := some "-l" }] }
    d.build { mode := .template } = .ok (some (Structure.ofCommand d.command).render) ∧
      d.build { mode := .executable } = .ok (some (Structure.ofCommand d.command).render) := by
  intro d
  have literal : ∀ t ∈ Token.scan d.command, Placeholder.scan t.text = [] := by decide +kernel
  exact ⟨build_eq_render rfl literal rfl rfl rfl rfl rfl (Or.inl rfl),
    build_eq_render rfl literal rfl rfl rfl rfl rfl (Or.inr rfl)⟩

end Definition

end ShellTemplate
