import ShellTemplate.Proofs.IndependentComponents
import ShellTemplate.Proofs.RenderRoundTrip

namespace ShellTemplate

namespace Token

@[simp] theorem kind_unplaced (t : Token) : t.unplaced.kind = t.kind := rfl

@[simp] theorem value_unplaced (t : Token) : t.unplaced.value = t.value := rfl

@[simp] theorem isSeparator_unplaced (t : Token) : t.unplaced.isSeparator = t.isSeparator := rfl

end Token

def Redirect.unplaced (r : Redirect) : Redirect :=
  ⟨r.operator.unplaced, r.target?.map Token.unplaced⟩

namespace Element

def unplaced : Element → Element
  | .word t => .word t.unplaced
  | .redirect r => .redirect r.unplaced
  | .control op t => .control op t.unplaced

theorem ofTokens_unplaced (ts : List Token) : ofTokens (ts.map Token.unplaced) = (ofTokens ts).map unplaced := by
  fun_induction ofTokens ts with
  | case1 => rfl
  | case2 t rest plain ih =>
    have word : t.unplaced.isSeparator = false := by simpa using plain
    rw [List.map_cons, ofTokens_word word, ih]
    rfl
  | case3 t rest operator unknown ih =>
    have separator : t.unplaced.isSeparator = true := by simpa using operator
    rw [List.map_cons, ofTokens_unknown separator unknown, ih]
  | case4 t operator op known redirects =>
    have separator : t.unplaced.isSeparator = true := by simpa using operator
    exact ofTokens_untargeted separator known redirects rfl
  | case5 t operator op known redirects next more stops ih =>
    have separator : t.unplaced.isSeparator = true := by simpa using operator
    rw [List.map_cons, ofTokens_untargeted separator known redirects (by exact stops), ih]
    rfl
  | case6 t operator op known redirects next more word ih =>
    have separator : t.unplaced.isSeparator = true := by simpa using operator
    have target : next.unplaced.isSeparator = false := by simpa using word
    rw [List.map_cons, List.map_cons, ofTokens_targeted separator known redirects target, ih]
    rfl
  | case7 t rest operator op known control ih =>
    have separator : t.unplaced.isSeparator = true := by simpa using operator
    have controls : op.isRedirect = false := by simpa using control
    rw [List.map_cons, ofTokens_control separator known controls, ih]
    rfl

end Element

namespace Component

def unplaced (c : Component) : Component where
  baseCommand? := c.baseCommand?.map Token.unplaced
  subcommand? := c.subcommand?.map Token.unplaced
  options := c.options.map Token.unplaced
  arguments := c.arguments.map Token.unplaced
  parameters := c.parameters.map Token.unplaced
  redirects := c.redirects.map Redirect.unplaced
  terminator? := c.terminator?.map Token.unplaced
  trailing := c.trailing.map Token.unplaced
  tokens := c.tokens.map Token.unplaced

theorem unplaced_addWord (c : Component) (t : Token) : (c.addWord t).unplaced = c.unplaced.addWord t.unplaced := by
  unfold addWord
  rw [Token.kind_unplaced]
  cases t.kind
  case option | parameter | quoted | separator => simp [unplaced]
  case argument | path =>
    cases base : c.baseCommand? with
    | none => simp [unplaced, base]
    | some name =>
      simp only [unplaced, base, Option.map_some, Option.isNone_map, Token.value_unplaced]
      split <;> simp

theorem unplaced_addRedirect (c : Component) (r : Redirect) :
    (c.addRedirect r).unplaced = c.unplaced.addRedirect r.unplaced := by
  simp [addRedirect, unplaced, Redirect.unplaced, Option.toList_map]

theorem unplaced_addTrailing (c : Component) (ts : List Token) :
    (c.addTrailing ts).unplaced = c.unplaced.addTrailing (ts.map Token.unplaced) := by
  simp [addTrailing, unplaced]

/-- The places of the tokens decide nothing about the components. -/
theorem gather_unplaced (es : List Element) :
    (∀ current, gather (unplaced current) (es.map Element.unplaced) = (gather current es).map unplaced) ∧
      ∀ closed, gatherTrailing (unplaced closed) (es.map Element.unplaced) =
        (gatherTrailing closed es).map unplaced := by
  induction es with
  | nil =>
    refine ⟨fun current => ?_, fun closed => rfl⟩
    have empty : current.unplaced.isEmpty = current.isEmpty := by simp [isEmpty, unplaced]
    rw [List.map_nil, gather, gather, empty]
    split <;> rfl
  | cons e es ih =>
    obtain ⟨reads, trails⟩ := ih
    have fresh : gather {} (es.map Element.unplaced) = (gather {} es).map unplaced := reads {}
    cases e with
    | word t =>
      refine ⟨fun current => ?_, fun closed => ?_⟩
      · rw [List.map_cons, Element.unplaced, gather, gather, ← unplaced_addWord, reads]
      · have added := unplaced_addTrailing closed [t]
        rw [List.map_cons, List.map_nil] at added
        rw [List.map_cons, Element.unplaced, gatherTrailing, gatherTrailing, ← added, trails]
    | redirect r =>
      refine ⟨fun current => ?_, fun closed => ?_⟩
      · rw [List.map_cons, Element.unplaced, gather, gather, ← unplaced_addRedirect, reads]
      · have added := unplaced_addTrailing closed (r.operator :: r.target?.toList)
        rw [List.map_cons, ← Option.toList_map] at added
        rw [List.map_cons, Element.unplaced, gatherTrailing, gatherTrailing, ← trails, added]
        rfl
    | control op t =>
      refine ⟨fun current => ?_, fun closed => ?_⟩
      · rw [List.map_cons, Element.unplaced, gather, gather]
        have terminated := trails { current with terminator? := some t }
        split
        · rw [List.map_cons, fresh]
          rfl
        · exact terminated
      · rw [List.map_cons, Element.unplaced, gatherTrailing, gatherTrailing]
        split
        · rw [List.map_cons, fresh]
        · exact trails closed

end Component

theorem Structure.components_unplaced (ts : List Token) :
    (ofTokens (ts.map Token.unplaced)).components = (ofTokens ts).components.map Component.unplaced := by
  have gathered := (Component.gather_unplaced (Element.ofTokens ts)).1 {}
  rw [← Element.ofTokens_unplaced] at gathered
  exact gathered

end ShellTemplate
