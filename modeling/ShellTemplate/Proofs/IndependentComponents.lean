import ShellTemplate.Proofs.RedirectTargets

namespace ShellTemplate

namespace Element

section

variable {t : Token} {rest : List Token} {op : Operator} (operator : t.isSeparator = true)

include operator

theorem ofTokens_unknown (unknown : Operator.ofSymbol? t.value = none) : ofTokens (t :: rest) = ofTokens rest := by
  rw [ofTokens.eq_def]
  simp [operator, unknown]

theorem ofTokens_control (known : Operator.ofSymbol? t.value = some op) (control : op.isRedirect = false) :
    ofTokens (t :: rest) = .control op t :: ofTokens rest := by
  rw [ofTokens.eq_def]
  simp [operator, known, control]

/-- A redirect before an operator or the end has no target. -/
theorem ofTokens_untargeted (known : Operator.ofSymbol? t.value = some op) (redirects : op.isRedirect = true)
    (stops : rest.head?.all (·.isSeparator) = true) : ofTokens (t :: rest) = .redirect ⟨t, none⟩ :: ofTokens rest := by
  rw [ofTokens.eq_def]
  cases rest with
  | nil => simp [operator, known, redirects, ofTokens]
  | cons next more =>
    have separator : next.isSeparator = true := stops
    simp [operator, known, redirects, separator]

theorem ofTokens_targeted {next : Token} (known : Operator.ofSymbol? t.value = some op)
    (redirects : op.isRedirect = true) (word : next.isSeparator = false) :
    ofTokens (t :: next :: rest) = .redirect ⟨t, some next⟩ :: ofTokens rest := by
  rw [ofTokens.eq_def]
  simp [operator, known, redirects, word]

end

/-- No redirect looks over an operator for its target. -/
theorem ofTokens_append (front : List Token) {back : List Token} (stops : back.head?.all (·.isSeparator) = true) :
    ofTokens (front ++ back) = ofTokens front ++ ofTokens back := by
  fun_induction ofTokens front with
  | case1 => rfl
  | case2 t rest plain ih =>
    rw [List.cons_append, ofTokens_word (by simpa using plain), ih, List.cons_append]
  | case3 t rest operator unknown ih =>
    rw [List.cons_append, ofTokens_unknown (by simpa using operator) unknown, ih]
  | case4 t operator op known redirects =>
    exact ofTokens_untargeted (by simpa using operator) known redirects stops
  | case5 t operator op known redirects next more separator ih =>
    rw [List.cons_append, ofTokens_untargeted (by simpa using operator) known redirects (by simpa using separator),
      ih, List.cons_append]
  | case6 t operator op known redirects next more word ih =>
    rw [List.cons_append, List.cons_append, ofTokens_targeted (by simpa using operator) known redirects
      (by simpa using word), ih, List.cons_append]
  | case7 t rest operator op known control ih =>
    rw [List.cons_append, ofTokens_control (by simpa using operator) known (by simpa using control), ih,
      List.cons_append]

end Element

namespace Component

/-- Behind an operator that opens a component all begins anew, whatever stood before it. -/
theorem gather_append {op : Operator} (opens : op.opensComponent = true) (t : Token) (es fs : List Element) :
    (∀ current, gather current (es ++ .control op t :: fs) = gather current (es ++ [.control op t]) ++ gather {} fs) ∧
      ∀ closed, gatherTrailing closed (es ++ .control op t :: fs) =
        gatherTrailing closed (es ++ [.control op t]) ++ gather {} fs := by
  induction es with
  | nil =>
    constructor
    · intro current
      simp [gather, opens, isEmpty]
    · intro closed
      simp [gather, gatherTrailing, opens, isEmpty]
  | cons e es ih =>
    obtain ⟨ihGather, ihTrailing⟩ := ih
    constructor
    · intro current
      cases e with
      | word u => exact ihGather _
      | redirect r => exact ihGather _
      | control other u =>
        simp only [List.cons_append, gather]
        split
        · rw [ihGather, List.cons_append]
        · exact ihTrailing _
    · intro closed
      cases e with
      | word u => exact ihTrailing _
      | redirect r => exact ihTrailing _
      | control other u =>
        simp only [List.cons_append, gatherTrailing]
        split
        · rw [ihGather, List.cons_append]
        · exact ihTrailing _

/-- A token that is read is in some component. -/
theorem gather_ne_nil (es : List Element) :
    (∀ current : Component, current.isEmpty = false → gather current es ≠ []) ∧
      ∀ closed, gatherTrailing closed es ≠ [] := by
  induction es with
  | nil =>
    refine ⟨fun current filled => ?_, fun closed => List.cons_ne_nil _ _⟩
    rw [gather, filled]
    exact List.cons_ne_nil _ _
  | cons e es ih =>
    obtain ⟨ihGather, ihTrailing⟩ := ih
    constructor
    · intro current filled
      cases e with
      | word t => exact ihGather _ (isEmpty_addWord current t)
      | redirect r => exact ihGather _ (isEmpty_addRedirect current r)
      | control op t =>
        rw [gather]
        split
        · exact List.cons_ne_nil _ _
        · exact ihTrailing _
    · intro closed
      cases e with
      | word t => exact ihTrailing _
      | redirect r => exact ihTrailing _
      | control op t =>
        rw [gatherTrailing]
        split
        · exact List.cons_ne_nil _ _
        · exact ihTrailing _

end Component

namespace Structure

/-- Two structures, one behind the other. -/
def append (front back : Structure) : Structure where
  baseCommand? := front.baseCommand?.or back.baseCommand?
  subcommands := front.subcommands ++ back.subcommands
  options := front.options ++ back.options
  arguments := front.arguments ++ back.arguments
  parameters := front.parameters ++ back.parameters
  separators := front.separators ++ back.separators
  components := front.components ++ back.components
  tokens := front.tokens ++ back.tokens

theorem ofComponents_append (ts us : List Token) (cs ds : List Component) :
    ofComponents (ts ++ us) (cs ++ ds) = (ofComponents ts cs).append (ofComponents us ds) := by
  simp [ofComponents, append]

theorem components_ne_nil (w : Token) (word : w.isSeparator = false) (rest : List Token) :
    (ofTokens (w :: rest)).components ≠ [] := by
  rw [ofTokens, Element.ofTokens_word word]
  exact (Component.gather_ne_nil (Element.ofTokens rest)).1 _ (Component.isEmpty_addWord {} w)

/-- Without an operator that opens a component, what stands between two words leaves them in one component. -/
theorem length_components_of_closed {s : Token} (closed : s.opensComponent = false) (w : Token)
    (word : w.isSeparator = false) :
    (ofTokens [w, s, w]).components.length = 1 := by
  rw [ofTokens, Element.ofTokens_word word]
  cases separator : s.isSeparator with
  | false =>
    simp [Element.ofTokens_word separator, Element.ofTokens_word word, Element.ofTokens, ofComponents,
      Component.gather, Component.isEmpty_addWord]
  | true =>
    cases known : Operator.ofSymbol? s.value with
    | none =>
      simp [Element.ofTokens_unknown separator known, Element.ofTokens_word word, Element.ofTokens, ofComponents,
        Component.gather, Component.isEmpty_addWord]
    | some op =>
      cases redirects : op.isRedirect with
      | true =>
        simp [Element.ofTokens_targeted separator known redirects word, Element.ofTokens, ofComponents,
          Component.gather, Component.isEmpty_addRedirect]
      | false =>
        rw [Token.opensComponent_eq separator known] at closed
        simp [Element.ofTokens_control separator known redirects, Element.ofTokens_word word, Element.ofTokens,
          ofComponents, Component.gather, Component.gatherTrailing, closed]

/-- A token parts all that stands before it from all that stands behind it exactly if it is an operator that opens a
component: then the structure of the whole is that of the two parts, one behind the other. -/
theorem ofTokens_append_iff (s : Token) :
    s.opensComponent = true ↔
      ∀ front back, ofTokens (front ++ [s] ++ back) = (ofTokens (front ++ [s])).append (ofTokens back) := by
  constructor
  · intro opens front back
    obtain ⟨separator, operates⟩ := Bool.and_eq_true_iff.1 opens
    obtain ⟨op, known, opens⟩ := (Option.any_eq_true _ _).1 operates
    have control : op.isRedirect = false := by
      revert opens
      cases op <;> decide
    have split (later : List Token) :
        Element.ofTokens (front ++ s :: later) = Element.ofTokens front ++ .control op s :: Element.ofTokens later := by
      have stops : (s :: later).head?.all (·.isSeparator) = true := separator
      rw [Element.ofTokens_append front stops, Element.ofTokens_control separator known control]
    have parts := (Component.gather_append opens s (Element.ofTokens front) (Element.ofTokens back)).1 {}
    rw [ofTokens, ofTokens, ofTokens, ← ofComponents_append, List.append_assoc, List.singleton_append, split, split,
      Element.ofTokens, parts]
  · intro parts
    rw [← Bool.not_eq_false]
    intro closed
    let w : Token := ⟨.argument, "", "", ⟨0, 0⟩, {}⟩
    have one := length_components_of_closed closed w rfl
    have two := congrArg (·.components.length) (parts [w] [w])
    have first := List.length_pos_iff.2 (components_ne_nil w rfl [s])
    have second := List.length_pos_iff.2 (components_ne_nil w rfl [])
    simp only [append, List.length_append, List.cons_append, List.nil_append] at two
    omega

end Structure

end ShellTemplate
