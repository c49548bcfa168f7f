import Mathlib.Data.List.Basic
import Mathlib.Data.List.TakeWhile
import ShellTemplate.Proofs.AcceptedOperators

namespace ShellTemplate

namespace Token

/-- An argument that is known as a subcommand of the base command. -/
def isSubcommandOf (base t : Token) : Bool :=
  t.kind == .argument && (knownSubcommands base.value).contains t.value

def isParameter (t : Token) : Bool :=
  t.kind == .parameter

/-- Words that are no options and no parameters. -/
def isOperand (t : Token) : Bool :=
  t.isWord || t.kind == .quoted

/-- An operand that is neither the base command nor the subcommand, once these have been found or not. -/
def isArgumentBehind (base? sub? : Option Token) (t : Token) : Bool :=
  t.isOperand && base?.elim (!t.isWord) fun base => sub?.isSome || !base.isSubcommandOf t

end Token

namespace Component

/-- Words and redirects in the order in which they stand, each redirect as its operator and then its target. -/
inductive Mingles : List Token → List Redirect → List Token → Prop
  | done : Mingles [] [] []
  | word {t ws rs ts} : t.isSeparator = false → Mingles ws rs ts → Mingles (t :: ws) rs (t :: ts)
  | redirect {r ws rs ts} : r.operator.isRedirect = true → (∀ t ∈ r.target?, t.isSeparator = false) →
      Mingles ws rs ts → Mingles ws (r :: rs) (r.operator :: (r.target?.toList ++ ts))

/-- The tokens without the redirects, each of which takes an operator and, if it has a target, the token behind it. -/
def withoutRedirects : List Redirect → List Token → List Token
  | [], ts => ts
  | _ :: _, [] => []
  | r :: rs, t :: ts =>
    if t.isSeparator then withoutRedirects rs (ts.drop r.target?.toList.length)
    else t :: withoutRedirects (r :: rs) ts
termination_by _ ts => ts.length

/-- The words of a component that are no targets of its redirects. -/
def freeWords (c : Component) : List Token :=
  withoutRedirects c.redirects c.tokens

section

variable {ws vs : List Token} {rs qs : List Redirect} {ts us : List Token}

theorem Mingles.append (first : Mingles ws rs ts) (second : Mingles vs qs us) :
    Mingles (ws ++ vs) (rs ++ qs) (ts ++ us) := by
  induction first with
  | done => exact second
  | word plain _ ih => exact .word plain ih
  | redirect operator target _ ih =>
    rw [List.cons_append, List.cons_append, List.append_assoc]
    exact .redirect operator target ih

theorem Mingles.withoutRedirects_eq (mingles : Mingles ws rs ts) : withoutRedirects rs ts = ws := by
  induction mingles with
  | done => rw [withoutRedirects]
  | @word t ws rs ts plain tail ih =>
    cases rs with
    | nil =>
      rw [withoutRedirects] at ih ⊢
      rw [ih]
    | cons r rs => rw [withoutRedirects, plain, if_neg Bool.false_ne_true, ih]
  | @redirect r ws rs ts operator _ _ ih =>
    have separator : r.operator.isSeparator = true := (Bool.and_eq_true_iff.1 operator).1
    rw [withoutRedirects, separator, if_pos rfl, List.drop_left, ih]

end

section

variable (c : Component) (t : Token)

/-- A word fills a field of the component by its kind, whatever else is in the component. -/
theorem fields_addWord : (c.addWord t).baseCommand? = c.baseCommand?.or ([t].find? (·.isWord)) ∧
    (c.addWord t).options = c.options ++ [t].filter (·.isOption) ∧
      (c.addWord t).parameters = c.parameters ++ [t].filter (·.isParameter) := by
  unfold addWord
  cases kind : t.kind with
  | argument | path =>
    dsimp only
    split
    · simp [*, Token.isWord, Token.isOption, Token.isParameter]
    · split <;> simp [*, Token.isWord, Token.isOption, Token.isParameter]
  | _ => simp [kind, Token.isWord, Token.isOption, Token.isParameter]

/-- A word behind the base command is its subcommand or an argument, by what has been found so far. -/
theorem subcommand?_arguments_addWord :
    (c.addWord t).subcommand? = c.subcommand?.or (c.baseCommand?.bind fun base => [t].find? base.isSubcommandOf) ∧
      (c.addWord t).arguments = c.arguments ++ [t].filter (·.isArgumentBehind c.baseCommand? c.subcommand?) := by
  unfold addWord
  cases kind : t.kind with
  | argument | path =>
    dsimp only
    cases base : c.baseCommand? with
    | none => simp [Token.isArgumentBehind, Token.isWord, kind]
    | some b =>
      cases sub : c.subcommand? with
      | none =>
        cases known : (knownSubcommands b.value).contains t.value <;>
          simp [Token.isArgumentBehind, Token.isOperand, Token.isWord, Token.isSubcommandOf, kind, known,
            -List.contains_eq_mem]
      | some s => simp [Token.isArgumentBehind, Token.isOperand, Token.isWord, kind]
  | _ =>
    cases c.baseCommand? <;>
      simp [Token.isArgumentBehind, Token.isOperand, Token.isWord, Token.isSubcommandOf, kind]

end

/-- The words before the first one that can name a command. -/
def wordsAhead (ws : List Token) : List Token :=
  ws.takeWhile (!·.isWord)

/-- The words behind the first one that can name a command. -/
def wordsBehind (ws : List Token) : List Token :=
  (ws.dropWhile (!·.isWord)).tail

/-- The first argument behind the base command that is listed for it. -/
def subcommandAmong? (ws : List Token) : Option Token :=
  (ws.find? (·.isWord)).bind fun base => (wordsBehind ws).find? base.isSubcommandOf

/-- The operands but for the base command and the subcommand. -/
def argumentsAmong (ws : List Token) : List Token :=
  (wordsAhead ws ++ (ws.find? (·.isWord)).elim [] fun base => (wordsBehind ws).eraseP base.isSubcommandOf).filter
    (·.isOperand)

section

variable {ws : List Token} {t base : Token}

/-- As long as no word names a command, every word stands ahead. -/
theorem unnamed_of_find? (unnamed : ws.find? (·.isWord) = none) : wordsAhead ws = ws ∧ ∀ more,
    (ws ++ more).find? (·.isWord) = more.find? (·.isWord) ∧ wordsAhead (ws ++ more) = ws ++ wordsAhead more ∧
      wordsBehind (ws ++ more) = wordsBehind more := by
  have other : ∀ u ∈ ws, (!u.isWord) = true := by simpa using unnamed
  refine ⟨List.takeWhile_eq_self_iff.2 other, fun more => ⟨?_, List.takeWhile_append_of_pos other, ?_⟩⟩
  · rw [List.find?_append, unnamed, Option.none_or]
  · rw [wordsBehind, List.dropWhile_append_of_pos other, wordsBehind]

/-- Once a word names the command, what comes later changes nothing before it. -/
theorem named_of_find? (named : ws.find? (·.isWord) = some base) : ∀ more,
    (ws ++ more).find? (·.isWord) = some base ∧ wordsAhead (ws ++ more) = wordsAhead ws ∧
      wordsBehind (ws ++ more) = wordsBehind ws ++ more := by
  obtain ⟨word, front, back, rfl, other⟩ := List.find?_eq_some_iff_append.1 named
  intro more
  have ahead (after : List Token) : wordsAhead (front ++ base :: after) = front := by
    rw [wordsAhead, List.takeWhile_append_of_pos other, List.takeWhile_cons_of_neg (by simp [word]), List.append_nil]
  have behind (after : List Token) : wordsBehind (front ++ base :: after) = after := by
    rw [wordsBehind, List.dropWhile_append_of_pos other, List.dropWhile_cons_of_neg (by simp [word]), List.tail_cons]
  refine ⟨by rw [List.find?_append, named, Option.some_or], ?_, ?_⟩
  · rw [List.append_assoc, List.cons_append, ahead, ahead]
  · rw [List.append_assoc, List.cons_append, behind, behind]

theorem subcommandAmong?_concat (ws : List Token) (t : Token) : subcommandAmong? (ws ++ [t]) =
    (subcommandAmong? ws).or ((ws.find? (·.isWord)).bind fun base => [t].find? base.isSubcommandOf) := by
  cases found : ws.find? (·.isWord) with
  | none =>
    obtain ⟨_, grown⟩ := unnamed_of_find? found
    obtain ⟨next, _, behind⟩ := grown [t]
    have none : wordsBehind [t] = [] := by
      rw [wordsBehind]
      cases word : t.isWord <;> simp [word]
    rw [subcommandAmong?, subcommandAmong?, next, behind, none, found]
    simp
  | some base =>
    obtain ⟨next, _, behind⟩ := named_of_find? found [t]
    rw [subcommandAmong?, subcommandAmong?, next, behind, found]
    exact List.find?_append

theorem argumentsAmong_concat (ws : List Token) (t : Token) : argumentsAmong (ws ++ [t]) =
    argumentsAmong ws ++ [t].filter (·.isArgumentBehind (ws.find? (·.isWord)) (subcommandAmong? ws)) := by
  cases found : ws.find? (·.isWord) with
  | none =>
    obtain ⟨whole, grown⟩ := unnamed_of_find? found
    obtain ⟨next, ahead, behind⟩ := grown [t]
    rw [argumentsAmong, argumentsAmong, next, ahead, behind, found, whole]
    cases word : t.isWord with
    | true => simp [word, wordsAhead, wordsBehind, Token.isArgumentBehind]
    | false => simp [word, wordsAhead, Token.isArgumentBehind, List.filter_cons]
  | some base =>
    obtain ⟨next, ahead, behind⟩ := named_of_find? found [t]
    rw [argumentsAmong, argumentsAmong, next, ahead, behind, found, subcommandAmong?, found, Option.bind_some,
      Option.elim_some, Option.elim_some]
    cases listed : (wordsBehind ws).find? base.isSubcommandOf with
    | none =>
      have unlisted : ∀ u ∈ wordsBehind ws, ¬base.isSubcommandOf u = true := List.find?_eq_none.1 listed
      rw [List.eraseP_append_right _ unlisted, List.eraseP_of_forall_not unlisted]
      cases known : base.isSubcommandOf t <;> simp [known, Token.isArgumentBehind, List.filter_cons]
    | some sub =>
      obtain ⟨known, member⟩ := List.find?_some listed, List.mem_of_find?_eq_some listed
      rw [List.eraseP_append_left known _ member]
      simp [Token.isArgumentBehind]

end

/-- The component holds these words and its redirects, and has each word where its kind and its order put it. -/
structure Sorts (c : Component) (ws : List Token) : Prop where
  tokens : Mingles ws c.redirects c.tokens
  baseCommand : c.baseCommand? = ws.find? (·.isWord)
  subcommand : c.subcommand? = subcommandAmong? ws
  options : c.options = ws.filter (·.isOption)
  arguments : c.arguments = argumentsAmong ws
  parameters : c.parameters = ws.filter (·.isParameter)

section

variable {c : Component} {ws : List Token}

theorem Sorts.empty : Sorts {} [] :=
  ⟨.done, rfl, rfl, rfl, rfl, rfl⟩

theorem Sorts.addWord (sorts : c.Sorts ws) {t : Token} (plain : t.isSeparator = false) :
    (c.addWord t).Sorts (ws ++ [t]) := by
  obtain ⟨base, options, parameters⟩ := fields_addWord c t
  obtain ⟨sub, arguments⟩ := subcommand?_arguments_addWord c t
  constructor
  · rw [redirects_addWord, tokens_addWord]
    simpa using sorts.tokens.append (.word plain .done)
  · rw [base, sorts.baseCommand, List.find?_append]
  · rw [sub, sorts.subcommand, sorts.baseCommand, subcommandAmong?_concat]
  · rw [options, sorts.options, List.filter_append]
  · rw [arguments, sorts.arguments, sorts.baseCommand, sorts.subcommand, argumentsAmong_concat]
  · rw [parameters, sorts.parameters, List.filter_append]

theorem Sorts.freeWords (sorts : c.Sorts ws) : c.Sorts c.freeWords := by
  rwa [Component.freeWords, sorts.tokens.withoutRedirects_eq]

theorem Sorts.addRedirect (sorts : c.Sorts ws) {r : Redirect} (operator : r.operator.isRedirect = true)
    (target : ∀ t ∈ r.target?, t.isSeparator = false) : (c.addRedirect r).Sorts ws := by
  obtain ⟨tokens, base, sub, options, arguments, parameters⟩ := sorts
  refine ⟨?_, base, sub, options, arguments, parameters⟩
  simpa [Component.addRedirect] using tokens.append (.redirect operator target .done)

end

/-- The component that is being read: its words are sorted, and it is neither closed nor trailed. -/
structure IsOpen (c : Component) : Prop where
  sorted : ∃ ws, c.Sorts ws
  unclosed : c.terminator? = none
  untrailed : c.trailing = []

/-- A component has its words sorted, and only `&` lets words trail it. If it holds nothing, an operator closed it. -/
structure IsWellFormed (c : Component) : Prop where
  sorted : c.Sorts c.freeWords
  terminator : ∀ t ∈ c.terminator?, t.isControl = true
  closed : c.tokens = [] → c.terminator?.isSome = true
  trailing : c.trailing ≠ [] → ∃ t ∈ c.terminator?, t.spells .background = true

/-- Well-formed components, each but the last closed by an operator. -/
structure AreWellFormed (cs : List Component) : Prop where
  each : ∀ c ∈ cs, c.IsWellFormed
  closed : ∀ c ∈ cs.dropLast, c.terminator?.isSome = true

section

variable {c : Component} {t : Token}

theorem IsOpen.empty : IsOpen {} :=
  ⟨⟨[], .empty⟩, rfl, rfl⟩

theorem IsOpen.addWord (isOpen : c.IsOpen) (plain : t.isSeparator = false) : (c.addWord t).IsOpen := by
  obtain ⟨⟨ws, sorts⟩, unclosed, untrailed⟩ := isOpen
  obtain ⟨_, _, terminator, trailing⟩ := unsorted_addWord c t
  exact ⟨⟨ws ++ [t], sorts.addWord plain⟩, terminator.trans unclosed, trailing.trans untrailed⟩

theorem IsOpen.addRedirect (isOpen : c.IsOpen) {r : Redirect} (operator : r.operator.isRedirect = true)
    (target : ∀ t ∈ r.target?, t.isSeparator = false) : (c.addRedirect r).IsOpen := by
  obtain ⟨⟨ws, sorts⟩, unclosed, untrailed⟩ := isOpen
  exact ⟨⟨ws, sorts.addRedirect operator target⟩, unclosed, untrailed⟩

/-- A component that holds something may end the command line. -/
theorem IsOpen.isWellFormed (isOpen : c.IsOpen) (filled : c.tokens ≠ []) : c.IsWellFormed where
  sorted := isOpen.sorted.elim fun _ sorts => sorts.freeWords
  terminator := by simp [isOpen.unclosed]
  closed empty := absurd empty filled
  trailing trailed := absurd isOpen.untrailed trailed

theorem IsOpen.terminated (isOpen : c.IsOpen) (control : t.isControl = true) :
    IsWellFormed { c with terminator? := some t } where
  sorted := by
    obtain ⟨ws, tokens, base, sub, options, arguments, parameters⟩ := isOpen.sorted
    exact Sorts.freeWords ⟨tokens, base, sub, options, arguments, parameters⟩
  terminator := by simpa using control
  closed _ := rfl
  trailing trailed := absurd isOpen.untrailed trailed

theorem IsWellFormed.addTrailing (wellFormed : c.IsWellFormed) (closed : c.terminator? = some t)
    (background : t.spells .background = true) (ts : List Token) : (c.addTrailing ts).IsWellFormed where
  sorted := by
    obtain ⟨tokens, base, sub, options, arguments, parameters⟩ := wellFormed.sorted
    exact ⟨tokens, base, sub, options, arguments, parameters⟩
  terminator := wellFormed.terminator
  closed := wellFormed.closed
  trailing _ := ⟨t, closed, background⟩

theorem AreWellFormed.singleton (wellFormed : c.IsWellFormed) : AreWellFormed [c] :=
  ⟨List.forall_mem_singleton.2 wellFormed, fun _ member => absurd member List.not_mem_nil⟩

theorem AreWellFormed.cons {cs : List Component} (wellFormed : c.IsWellFormed) (closed : c.terminator? = some t)
    (later : AreWellFormed cs) : AreWellFormed (c :: cs) := by
  refine ⟨List.forall_mem_cons.2 ⟨wellFormed, later.each⟩, ?_⟩
  cases cs with
  | nil => exact fun _ member => absurd member List.not_mem_nil
  | cons d ds => exact List.forall_mem_cons.2 ⟨by rw [closed, Option.isSome_some], later.closed⟩

end

/-- The components of any steps are well-formed. Both gatherers are followed together: the component that one reads is
open, and the one that the other trails has been closed by `&`. -/
theorem areWellFormed_gather {es : List Element} (read : ∀ e ∈ es, e.IsRead) :
    (∀ current : Component, current.IsOpen → AreWellFormed (gather current es)) ∧
      ∀ (closed : Component) (t : Token), closed.IsWellFormed → closed.terminator? = some t →
        t.spells .background = true → AreWellFormed (gatherTrailing closed es) := by
  induction es with
  | nil =>
    refine ⟨fun current isOpen => ?_, fun closed _ wellFormed _ _ => .singleton wellFormed⟩
    unfold gather
    split
    · exact ⟨fun _ member => absurd member List.not_mem_nil, fun _ member => absurd member List.not_mem_nil⟩
    · rename_i filled
      exact .singleton (isOpen.isWellFormed fun empty => filled (List.isEmpty_iff.2 empty))
  | cons e es ih =>
    obtain ⟨here, later⟩ := List.forall_mem_cons.1 read
    obtain ⟨ihGather, ihTrailing⟩ := ih later
    constructor
    · intro current isOpen
      cases e with
      | word u => exact ihGather _ (isOpen.addWord here)
      | redirect r =>
        obtain ⟨separator, ⟨op, known, redirects⟩, target⟩ := here
        exact ihGather _ (isOpen.addRedirect ((Token.isRedirect_eq separator known).trans redirects) target)
      | control op u =>
        obtain ⟨separator, known, control⟩ := here
        have isControl : u.isControl = true := by
          rw [Token.isControl_eq separator known, Operator.isControl, control, Bool.not_false]
        have wellFormed := isOpen.terminated isControl
        unfold gather
        dsimp only
        split
        · exact .cons wellFormed rfl (ihGather {} .empty)
        · rename_i same
          have background : op = .background :=
            by_contra fun other => same (Operator.opensComponent_of_isRedirect_eq_false control other)
          exact ihTrailing _ u wellFormed rfl (Token.spells_iff.2 ⟨separator, background ▸ known⟩)
    · intro closed t wellFormed terminated background
      have further (ts : List Token) : AreWellFormed (gatherTrailing (closed.addTrailing ts) es) :=
        ihTrailing _ t (wellFormed.addTrailing terminated background ts) terminated background
      cases e with
      | word u => exact further [u]
      | redirect r => exact further _
      | control op u =>
        unfold gatherTrailing
        split
        · exact .cons wellFormed terminated (ihGather {} .empty)
        · exact ihTrailing _ t wellFormed terminated background

end Component

namespace Structure

/-- The components of the structure are well-formed, each but the last is closed by a control operator, and what stands
beside them is gathered from them. -/
structure IsWellFormed (s : Structure) : Prop where
  components : ∀ c ∈ s.components, c.IsWellFormed
  closed : ∀ c ∈ s.components.dropLast, ∃ t ∈ c.terminator?, t.isControl = true
  baseCommand : s.baseCommand? = s.components.findSome? (·.baseCommand?)
  subcommands : s.subcommands = s.components.flatMap (·.subcommand?.toList)
  options : s.options = s.components.flatMap (·.options)
  arguments : s.arguments = s.components.flatMap (·.arguments)
  parameters : s.parameters = s.components.flatMap (·.parameters)

/-- Whatever the tokens are, their structure is well-formed. -/
theorem isWellFormed_ofTokens (ts : List Token) : (ofTokens ts).IsWellFormed := by
  have wellFormed := (Component.areWellFormed_gather (Element.forall_mem_ofTokens ts)).1 {} .empty
  refine ⟨wellFormed.each, fun c member => ?_, rfl, List.filterMap_eq_flatMap_toList _ _, rfl, rfl, rfl⟩
  obtain ⟨t, closed⟩ := Option.isSome_iff_exists.1 (wellFormed.closed c member)
  exact ⟨t, closed, (wellFormed.each c (List.dropLast_subset _ member)).terminator t closed⟩

end Structure

end ShellTemplate
