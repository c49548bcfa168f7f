import ShellTemplate.Proofs.GatheredWords
import ShellTemplate.Proofs.SortedInsertion
import ShellTemplate.Proofs.TokenTiles

namespace ShellTemplate

namespace Structure

/-- Tokens that stand one after the other come out of their structure in their order, each once. -/
theorem ordered_ofTokens {ts : List Token} (rising : ts.Pairwise fun t u => t.span.start < u.span.start) :
    (ofTokens ts).ordered = ts := by
  have plain := fun e => @Element.isPlain_of_mem ts e
  have members (u : Token) :
      u ∈ (ofTokens ts).components.flatMap Component.words ++ (ofTokens ts).separators ↔ u ∈ ts := by
    change u ∈ (Component.gather {} (Element.ofTokens ts)).flatMap Component.words ++ ts.filter (·.isSeparator) ↔ _
    rw [List.mem_append, List.mem_filter]
    constructor
    · rintro (word | operator)
      · refine Element.mem_of_mem_tokens (((Component.mem_of_mem_gather plain).1 {} word).resolve_left ?_)
        simp [Component.words]
      · exact operator.1
    · intro member
      cases kind : u.isSeparator with
      | true => exact Or.inr ⟨member, rfl⟩
      | false =>
        exact Or.inl ((Component.mem_gather plain).1 {} Component.isHeld_empty
          (Or.inr (Element.mem_words_ofTokens member kind)))
  obtain ⟨sorted, final⟩ := @foldl_insertSorted Token (·.span.start) ts [] _ rising
    (fun u member => (members u).1 member) .nil
  refine eq_of_rising_of_mem_iff sorted rising fun u => (final u).trans ?_
  exact (or_iff_right List.not_mem_nil).trans (members u)

end Structure

/-- A command line is laid out anew from its tokens. -/
theorem Structure.render_ofCommand (command : String) :
    (ofCommand command).render = Piece.join ((Token.scan command).map Token.piece) := by
  rw [render, ofCommand, ordered_ofTokens (Token.tiles_scan command).rising]

end ShellTemplate
