import ShellTemplate.Proofs.GatheredWords
import ShellTemplate.Build

namespace ShellTemplate

namespace Token

/-- A separator token that is a redirect operator. -/
def isRedirect (t : Token) : Bool :=
  t.isSeparator && (Operator.ofSymbol? t.value).any (·.isRedirect)

/-- A separator token that is a control operator behind which a component begins. -/
def opensComponent (t : Token) : Bool :=
  t.isSeparator && (Operator.ofSymbol? t.value).any (·.opensComponent)

/-- The word at the beginning of the tokens. -/
def leadingWord? : List Token → Option Token
  | [] => none
  | t :: _ => if t.isSeparator then none else some t

/-- The redirects of the tokens with their targets. Behind a background operator, until an operator opens a
component, what looks like a redirect is none. -/
def redirects (behind : Bool) : List Token → List Redirect
  | [] => []
  | t :: rest =>
    if t.isRedirect then (if behind then [] else [⟨t, leadingWord? rest⟩]) ++ redirects behind rest
    else if t.isControl then redirects (!t.opensComponent) rest
    else redirects behind rest

section

variable {behind : Bool} {t : Token} {rest : List Token}

section

variable {op : Operator} (operator : t.isSeparator = true) (known : Operator.ofSymbol? t.value = some op)

include operator known

theorem isRedirect_eq : t.isRedirect = op.isRedirect := by
  simp [isRedirect, operator, known]

theorem isControl_eq : t.isControl = op.isControl := by
  simp [isControl, operator, known]

theorem opensComponent_eq : t.opensComponent = op.opensComponent := by
  simp [opensComponent, operator, known]

end

theorem redirects_word (word : t.isSeparator = false) : redirects behind (t :: rest) = redirects behind rest := by
  simp [redirects, isRedirect, isControl, word]

theorem redirects_redirect (redirects? : t.isRedirect = true) :
    redirects behind (t :: rest) = (if behind then [] else [⟨t, leadingWord? rest⟩]) ++ redirects behind rest := by
  simp [redirects, redirects?]

theorem redirects_control {op : Operator} (operator : t.isSeparator = true)
    (known : Operator.ofSymbol? t.value = some op) (control : op.isRedirect = false) :
    redirects behind (t :: rest) = redirects (!op.opensComponent) rest := by
  rw [redirects, isRedirect_eq operator known, isControl_eq operator known, opensComponent_eq operator known]
  simp [control, Operator.isControl]

theorem redirects_unknown (unknown : Operator.ofSymbol? t.value = none) :
    redirects behind (t :: rest) = redirects behind rest := by
  simp [redirects, isRedirect, isControl, unknown]

end

end Token

namespace Structure

/-- The redirects of all components. -/
def redirects (s : Structure) : List Redirect :=
  s.components.flatMap (·.redirects)

end Structure

namespace Component

/-- The redirects of the component are among its tokens. -/
def HoldsRedirects (c : Component) : Prop :=
  ∀ r ∈ c.redirects, r.operator ∈ c.tokens

theorem HoldsRedirects.empty : HoldsRedirects {} :=
  fun _ member => absurd member List.not_mem_nil

theorem redirects_addWord (c : Component) (t : Token) : (c.addWord t).redirects = c.redirects :=
  (unsorted_addWord c t).2.1

theorem HoldsRedirects.addWord {c : Component} (holds : c.HoldsRedirects) (t : Token) : (c.addWord t).HoldsRedirects := by
  intro r member
  rw [redirects_addWord] at member
  rw [tokens_addWord]
  exact List.mem_append_left _ (holds r member)

theorem HoldsRedirects.addRedirect {c : Component} (holds : c.HoldsRedirects) (r : Redirect) :
    (c.addRedirect r).HoldsRedirects := by
  intro q member
  rcases List.mem_append.1 member with old | new
  · exact List.mem_append_left _ (holds q old)
  · cases List.mem_singleton.1 new
    exact List.mem_append_right _ List.mem_cons_self

theorem HoldsRedirects.redirects_eq_nil {c : Component} (holds : c.HoldsRedirects) (empty : c.isEmpty = true) :
    c.redirects = [] := by
  refine List.eq_nil_iff_forall_not_mem.2 fun r member => ?_
  have inside := holds r member
  rw [List.isEmpty_iff.1 empty] at inside
  exact absurd inside List.not_mem_nil

theorem holdsRedirects_gather (es : List Element) : ∀ c ∈ gather {} es, c.HoldsRedirects :=
  (forall_mem_gather (P := HoldsRedirects) .empty (fun _ t holds => holds.addWord t) (fun _ r holds => holds.addRedirect r)
    (fun _ _ holds => holds) (fun _ _ holds => holds) es).1 _ .empty

/-- The redirects of the components are those of the tokens. The two gatherers are followed together, as each control
operator leads from one to the other. -/
theorem redirects_gather (ts : List Token) :
    (∀ current : Component, current.HoldsRedirects →
        (gather current (Element.ofTokens ts)).flatMap (·.redirects) = current.redirects ++ Token.redirects false ts) ∧
      ∀ closed : Component,
        (gatherTrailing closed (Element.ofTokens ts)).flatMap (·.redirects) = closed.redirects ++ Token.redirects true ts := by
  fun_induction Element.ofTokens ts with
  | case1 =>
    refine ⟨fun current holds => ?_, fun closed => by simp [gatherTrailing, Token.redirects]⟩
    unfold gather
    split
    · rename_i empty
      simp [Token.redirects, holds.redirects_eq_nil empty]
    · simp [Token.redirects]
  | case2 t rest plain ih =>
    rw [Bool.not_eq_true'] at plain
    rw [Token.redirects_word plain, Token.redirects_word plain]
    refine ⟨fun current holds => ?_, fun closed => ih.2 (closed.addTrailing [t])⟩
    rw [gather, ih.1 _ (holds.addWord t), redirects_addWord]
  | case3 t rest operator unknown ih =>
    rw [Token.redirects_unknown unknown, Token.redirects_unknown unknown]
    exact ih
  | case4 t operator op known control =>
    have isRedirect : t.isRedirect = true := (Token.isRedirect_eq (by simpa using operator) known).trans control
    rw [Token.redirects_redirect isRedirect, Token.redirects_redirect isRedirect]
    refine ⟨fun current holds => ?_, fun closed => ?_⟩
    · simp [gather, isEmpty, addRedirect, Token.redirects, Token.leadingWord?]
    · simp [gatherTrailing, addTrailing, Token.redirects]
  | case5 t operator op known control next more separator ih =>
    have isRedirect : t.isRedirect = true := (Token.isRedirect_eq (by simpa using operator) known).trans control
    rw [Token.redirects_redirect isRedirect, Token.redirects_redirect isRedirect]
    refine ⟨fun current holds => ?_, fun closed => ih.2 (closed.addTrailing [t])⟩
    rw [gather, ih.1 _ (holds.addRedirect _)]
    simp [addRedirect, Token.leadingWord?, separator]
  | case6 t operator op known control next more word ih =>
    have isRedirect : t.isRedirect = true := (Token.isRedirect_eq (by simpa using operator) known).trans control
    rw [Bool.not_eq_true] at word
    rw [Token.redirects_redirect isRedirect, Token.redirects_redirect isRedirect, Token.redirects_word word,
      Token.redirects_word word]
    refine ⟨fun current holds => ?_, fun closed => ih.2 (closed.addTrailing [t, next])⟩
    rw [gather, ih.1 _ (holds.addRedirect _)]
    simp [addRedirect, Token.leadingWord?, word]
  | case7 t rest operator op known control ih =>
    have isOperator : t.isSeparator = true := by simpa using operator
    rw [Bool.not_eq_true] at control
    rw [Token.redirects_control isOperator known control, Token.redirects_control isOperator known control]
    have fresh := ih.1 {} .empty
    constructor
    · intro current holds
      rw [gather]
      cases opens : op.opensComponent with
      | true => simpa [opens] using fresh
      | false => simpa [opens] using ih.2 { current with terminator? := some t }
    · intro closed
      rw [gatherTrailing]
      cases opens : op.opensComponent with
      | true => simpa [opens] using fresh
      | false => simpa [opens] using ih.2 closed

end Component

namespace Structure

/-- The redirects of a structure are those of its tokens, each with the word behind it. -/
theorem redirects_ofTokens (ts : List Token) : (ofTokens ts).redirects = Token.redirects false ts :=
  (Component.redirects_gather ts).1 {} .empty

end Structure

end ShellTemplate
