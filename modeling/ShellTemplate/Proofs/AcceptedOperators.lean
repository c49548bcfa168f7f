import ShellTemplate.Proofs.RedirectTargets
import ShellTemplate.Proofs.ReportedErrors
import ShellTemplate.Proofs.TokenTiles

namespace ShellTemplate

/-- Of the control operators only `&` opens no component. -/
theorem Operator.opensComponent_of_isRedirect_eq_false {op : Operator} (control : op.isRedirect = false)
    (other : op ≠ .background) : op.opensComponent = true := by
  cases op with
  | background => contradiction
  | pipe | pipeAll | and | or | sequence => rfl
  | _ => contradiction

namespace Token

/-- A separator token that is the given operator. -/
def spells (op : Operator) (t : Token) : Bool :=
  t.isSeparator && t.value == op.symbol

variable {t : Token}

theorem spells_iff {op : Operator} :
    t.spells op = true ↔ t.isSeparator = true ∧ Operator.ofSymbol? t.value = some op := by
  refine ⟨fun spelled => ?_, fun ⟨separator, known⟩ => ?_⟩
  · obtain ⟨separator, symbol⟩ := Bool.and_eq_true_iff.1 spelled
    rw [beq_iff_eq.1 symbol]
    exact ⟨separator, Operator.ofSymbol?_symbol op⟩
  · have symbol := Operator.symbol_of_ofSymbol? known
    simp [spells, separator, ← symbol]

theorem spells_eq_false {op other : Operator} (known : Operator.ofSymbol? t.value = some op) (differ : op ≠ other) :
    t.spells other = false := by
  refine Bool.eq_false_iff.2 fun spelled => differ ?_
  exact Option.some.inj (known.symm.trans (spells_iff.1 spelled).2)

theorem opensComponent_of_isControl (control : t.isControl = true) (other : t.spells .background = false) :
    t.opensComponent = true := by
  obtain ⟨separator, operates⟩ := Bool.and_eq_true_iff.1 control
  obtain ⟨op, known, isControl⟩ := (Option.any_eq_true _ _).1 operates
  have opens : op.opensComponent = true := by
    refine Operator.opensComponent_of_isRedirect_eq_false (by simpa [Operator.isControl] using isControl) ?_
    rintro rfl
    exact absurd (spells_iff.2 ⟨separator, known⟩) (by simp [other])
  simp [opensComponent, separator, known, opens]

/-- A separator of a command line is an operator. -/
theorem exists_operator {command : String} (member : t ∈ scan command) (separator : t.isSeparator = true) :
    ∃ op, Operator.ofSymbol? t.value = some op := by
  rcases cases_of_mem_scanFrom member with ⟨start, w, rfl, _⟩ | ⟨start, digits, op, rfl, _⟩
  · rw [Word.token_isSeparator] at separator
    contradiction
  · exact ⟨op, Operator.ofSymbol?_symbol op⟩

theorem exists_of_leadingWord? {ts : List Token} {w : Token} (leading : leadingWord? ts = some w) :
    ∃ rest, ts = w :: rest ∧ w.isSeparator = false := by
  cases ts with
  | nil => contradiction
  | cons t rest =>
    rw [leadingWord?] at leading
    split at leading
    · contradiction
    · rename_i word
      cases leading
      exact ⟨rest, rfl, by simpa using word⟩

/-- A redirect operator makes a redirect if no background operator precedes it. -/
theorem mem_redirects {front back : List Token} (ahead : ∀ u ∈ front, u.spells .background = false)
    (redirect : t.isRedirect = true) : ⟨t, leadingWord? back⟩ ∈ redirects false (front ++ t :: back) := by
  induction front with
  | nil => simp [redirects_redirect redirect]
  | cons u front ih =>
    obtain ⟨other, later⟩ := List.forall_mem_cons.1 ahead
    have inside := ih later
    rw [List.cons_append, redirects]
    split
    · exact List.mem_append_right _ inside
    · split
      · rename_i control
        rwa [opensComponent_of_isControl control other]
      · exact inside

end Token

/-- What the check of a component that has tokens vouches for. -/
structure Component.IsAccepted (c : Component) : Prop where
  targets : ∀ r ∈ c.redirects, r.target?.isSome = true
  trailing : ∀ t ∈ c.terminator?, t.spells .background = true → c.trailing = []

namespace Check

open Report

section Operators

variable {previous? : Option Token} {t : Token} {rest : List Token}

theorem operators_cons (accepted : (operators previous? (t :: rest)).errors = []) :
    (t.isSeparator = true → (operator previous? t rest.isEmpty).errors = []) ∧ (operators (some t) rest).errors = [] := by
  rw [operators, errors_append, List.append_eq_nil_iff] at accepted
  refine ⟨fun separator => ?_, accepted.2⟩
  simpa [separator, guarded] using accepted.1

/-- An accepted operator follows a token, and if that is an operator too, the two are `|` and `&`. -/
theorem exists_previous {isLast : Bool} {op : Operator} (known : Operator.ofSymbol? t.value = some op)
    (accepted : (operator previous? t isLast).errors = []) :
    ∃ previous, previous? = some previous ∧
      (previous.isSeparator = true → previous.spells .pipe = true ∧ t.value = Operator.background.symbol) := by
  have needsCommand : op.rules.commandBefore = true := by cases op <;> rfl
  rw [errors_eq_nil_iff, operator, known] at accepted
  cases previous? with
  | none => simp [needsCommand, inCommand] at accepted
  | some previous =>
    refine ⟨previous, rfl, fun separator => ?_⟩
    have follows : Operator.mayFollow previous.value t.value = true := by
      simpa [separator, inCommand, adviseCommand] using accepted
    simpa [Operator.mayFollow, Token.spells, separator, Operator.symbol] using follows

/-- Behind an operator that is not `|` no operator is accepted. -/
theorem isSeparator_eq_false (known : t.isSeparator = true → ∃ op, Operator.ofSymbol? t.value = some op)
    {previous : Token} (separator : previous.isSeparator = true) (other : previous.spells .pipe = false)
    (accepted : (operators (some previous) (t :: rest)).errors = []) : t.isSeparator = false := by
  refine Bool.eq_false_iff.2 fun operator => ?_
  obtain ⟨op, symbol⟩ := known operator
  obtain ⟨_, before, pair⟩ := exists_previous symbol ((operators_cons accepted).1 operator)
  cases before
  exact absurd (pair separator).1 (by simp [other])

end Operators

theorem component_isAccepted {index : Nat} {c : Component} (accepted : (component index c).errors = [])
    (filled : c.isEmpty = false) : c.IsAccepted := by
  rw [errors_eq_nil_iff, component, filled] at accepted
  simp only [Bool.false_eq_true, if_false, errorsAre_append, errorsAre_concat, errorsAre_guarded, inCommand,
    errorsAre_error] at accepted
  obtain ⟨⟨⟨⟨_, targets⟩, _⟩, trailing⟩, _⟩ := accepted
  constructor
  · intro r member
    have reported := targets _ (List.mem_map_of_mem member)
    rw [errorsAre_guarded, errorsAre_error] at reported
    cases target : r.target? with
    | none => exact (reported (by rw [target]; rfl)).elim
    | some w => rfl
  · intro t closes background
    have ends : (Operator.ofSymbol? t.value).any (·.rules.endsCommand) = true := by
      rw [(Token.spells_iff.1 background).2]
      rfl
    rw [Option.mem_def.1 closes, Option.any_some, ends, Bool.and_true] at trailing
    cases trails : c.trailing with
    | nil => rfl
    | cons u us => exact (trailing (by rw [trails]; rfl)).elim

theorem components_areAccepted {index : Nat} {cs : List Component} (accepted : (components index cs).errors = []) :
    ∀ c ∈ cs, c.isEmpty = false → c.IsAccepted := by
  induction cs generalizing index with
  | nil => exact fun _ member => absurd member List.not_mem_nil
  | cons c cs ih =>
    rw [components, errors_append, List.append_eq_nil_iff] at accepted
    exact List.forall_mem_cons.2 ⟨component_isAccepted accepted.1, ih accepted.2⟩

end Check

namespace Component

theorem gatherTrailing_eq (closed : Component) (es : List Element) :
    ∃ ts later, gatherTrailing closed es = closed.addTrailing ts :: later := by
  have same : closed = closed.addTrailing [] := by simp [addTrailing]
  induction es generalizing closed with
  | nil => exact ⟨[], [], by rw [gatherTrailing, ← same]⟩
  | cons e es ih =>
    have further (us : List Token) :
        ∃ ts later, gatherTrailing (closed.addTrailing us) es = closed.addTrailing ts :: later := by
      obtain ⟨ts, later, gathered⟩ := ih (closed.addTrailing us) (by simp [addTrailing])
      exact ⟨us ++ ts, later, by rw [gathered]; simp [addTrailing]⟩
    cases e with
    | word t => exact further [t]
    | redirect r => exact further _
    | control op t =>
      unfold gatherTrailing
      split
      · exact ⟨[], gather {} es, by rw [← same]⟩
      · exact ih closed same

end Component

namespace Token

/-- `|` and `&` with a word behind them. They close a component that has no token, so that the word trails a
component that no check looks into. -/
def isUnseenTrail (pipe background word : Token) : Bool :=
  pipe.spells .pipe && background.spells .background && !word.isSeparator

/-- Whether `|`, `&` and a word stand in a row. -/
def holdUnseenTrail : List Token → Bool
  | t :: u :: w :: rest => isUnseenTrail t u w || holdUnseenTrail (u :: w :: rest)
  | _ => false

theorem holdUnseenTrail_iff {ts : List Token} :
    holdUnseenTrail ts = true ↔ ∃ t u w, [t, u, w] <:+: ts ∧ isUnseenTrail t u w = true := by
  fun_induction holdUnseenTrail ts with
  | case1 t u w rest ih =>
    rw [Bool.or_eq_true, ih]
    constructor
    · rintro (here | ⟨t', u', w', inside, unseen⟩)
      · exact ⟨t, u, w, ⟨[], rest, rfl⟩, here⟩
      · exact ⟨t', u', w', List.infix_cons inside, unseen⟩
    · rintro ⟨t', u', w', inside, unseen⟩
      rcases List.infix_cons_iff.1 inside with ⟨back, here⟩ | later
      · cases here
        exact Or.inl unseen
      · exact Or.inr ⟨t', u', w', later, unseen⟩
  | case2 ts short =>
    refine ⟨nofun, ?_⟩
    rintro ⟨t, u, w, ⟨front, back, rfl⟩, _⟩
    match front with
    | [] => exact (short t u w back rfl).elim
    | [a] => exact (short a t u (w :: back) rfl).elim
    | [a, b] => exact (short a b t (u :: w :: back) rfl).elim
    | a :: b :: c :: front => exact (short a b c (front ++ [t, u, w] ++ back) rfl).elim

end Token

/-- The operators of a token list are where the check of operators accepts them. -/
structure Token.AreInPlace (previous? : Option Token) (ts : List Token) : Prop where
  known : ∀ t ∈ ts, t.isSeparator = true → ∃ op, Operator.ofSymbol? t.value = some op
  accepted : (Check.operators previous? ts).errors = []
  seen : holdUnseenTrail (previous?.toList ++ ts) = false

theorem Token.AreInPlace.tail {previous? : Option Token} {t : Token} {rest : List Token}
    (inPlace : AreInPlace previous? (t :: rest)) : AreInPlace (some t) rest where
  known := fun u member => inPlace.known u (List.mem_cons_of_mem _ member)
  accepted := (Check.operators_cons inPlace.accepted).2
  seen := by
    refine Bool.eq_false_iff.2 fun unseen => Bool.eq_false_iff.1 inPlace.seen ?_
    obtain ⟨t', u', w', inside, isUnseen⟩ := holdUnseenTrail_iff.1 unseen
    exact holdUnseenTrail_iff.2 ⟨t', u', w', inside.trans (List.suffix_append _ _).isInfix, isUnseen⟩

namespace Component

variable {ts rest : List Token} {previous? : Option Token} {current : Component} {t : Token}

/-- A background operator ends its command line where it is met: what would trail has been accepted nowhere. -/
theorem eq_nil_of_background (inPlace : Token.AreInPlace previous? (t :: rest)) (background : t.spells .background = true)
    (accepted : ∀ c ∈ gatherTrailing { current with terminator? := some t } (Element.ofTokens rest),
      c.isEmpty = false → c.IsAccepted)
    (filled : ∀ previous ∈ previous?, previous.isSeparator = false → current.isEmpty = false) : rest = [] := by
  obtain ⟨separator, known⟩ := Token.spells_iff.1 background
  cases rest with
  | nil => rfl
  | cons next rest =>
    have word : next.isSeparator = false :=
      Check.isSeparator_eq_false (inPlace.tail.known next List.mem_cons_self) separator
        (Token.spells_eq_false known Operator.noConfusion) inPlace.tail.accepted
    obtain ⟨previous, rfl, pair⟩ := Check.exists_previous known ((Check.operators_cons inPlace.accepted).1 separator)
    have beforeWord : previous.isSeparator = false := by
      refine Bool.eq_false_iff.2 fun operator => ?_
      have seen := inPlace.seen
      simp [Token.holdUnseenTrail, Token.isUnseenTrail, (pair operator).1, background, word] at seen
    obtain ⟨us, later, gathered⟩ :=
      gatherTrailing_eq ({ current with terminator? := some t }.addTrailing [next]) (Element.ofTokens rest)
    rw [Element.ofTokens_word word, gatherTrailing, gathered] at accepted
    have nothing := (accepted _ List.mem_cons_self (filled previous rfl beforeWord)).trailing t rfl background
    simp [addTrailing] at nothing

/-- Behind an accepted background operator stands nothing. The tokens are followed with the component that is being
read, which has a token wherever the last token was a word. -/
theorem eq_nil_of_suffix (inPlace : Token.AreInPlace previous? ts)
    (accepted : ∀ c ∈ gather current (Element.ofTokens ts), c.isEmpty = false → c.IsAccepted)
    (filled : ∀ previous ∈ previous?, previous.isSeparator = false → current.isEmpty = false)
    (behind : t :: rest <:+ ts) (background : t.spells .background = true) : rest = [] := by
  obtain ⟨separator, known⟩ := Token.spells_iff.1 background
  fun_induction Element.ofTokens ts generalizing previous? current with
  | case1 => exact absurd behind (by simp)
  | case2 u more plain ih =>
    rcases List.suffix_cons_iff.1 behind with here | later
    · cases here
      simp [separator] at plain
    · rw [gather] at accepted
      refine ih inPlace.tail accepted ?_ later
      intro _ _ _
      simp [isEmpty, tokens_addWord]
  | case3 u more operator unknown ih =>
    obtain ⟨op, symbol⟩ := inPlace.known u List.mem_cons_self (by simpa using operator)
    rw [symbol] at unknown
    contradiction
  | case4 u operator op symbol redirects =>
    rcases List.suffix_cons_iff.1 behind with here | later
    · cases here
      rfl
    · exact absurd later (by simp)
  | case5 u operator op symbol redirects next more nextOperator ih =>
    have notPipe : op ≠ .pipe := by
      rintro rfl
      contradiction
    have word := Check.isSeparator_eq_false (inPlace.tail.known next List.mem_cons_self) (by simpa using operator)
      (Token.spells_eq_false symbol notPipe) inPlace.tail.accepted
    rw [word] at nextOperator
    contradiction
  | case6 u operator op symbol redirects next more word ih =>
    rcases List.suffix_cons_iff.1 behind with here | later
    · cases here
      rw [known] at symbol
      cases symbol
      contradiction
    · rcases List.suffix_cons_iff.1 later with here | later
      · cases here
        contradiction
      · rw [gather] at accepted
        refine ih inPlace.tail.tail accepted ?_ later
        intro _ _ _
        simp [isEmpty, addRedirect]
  | case7 u more operator op symbol control ih =>
    rw [Bool.not_eq_true] at control
    rw [gather] at accepted
    rcases Decidable.em (op = .background) with rfl | other
    · have last : u.spells .background = true := Token.spells_iff.2 ⟨by simpa using operator, symbol⟩
      cases eq_nil_of_background inPlace last accepted filled
      rcases List.suffix_cons_iff.1 behind with here | later
      · cases here
        rfl
      · exact absurd later (by simp)
    · rw [Operator.opensComponent_of_isRedirect_eq_false control other, if_pos rfl] at accepted
      rcases List.suffix_cons_iff.1 behind with here | later
      · cases here
        exact absurd (Option.some.inj (symbol.symm.trans known)) other
      · refine @ih _ {} inPlace.tail (fun c member => accepted c (List.mem_cons_of_mem _ member)) ?_ later
        rintro previous ⟨⟩ word
        rw [word] at operator
        contradiction

end Component

namespace Structure

/-- No word trails a background operator, and each redirect operator has the word behind it as its target. -/
structure OperatorsSound (command : String) : Prop where
  background : ∀ front between back t word, Token.scan command = front ++ t :: (between ++ word :: back) →
    t.spells .background = true → word.isSeparator = false → ∃ u ∈ between, u.opensComponent = true
  redirect : ∀ front back t, Token.scan command = front ++ t :: back → t.isRedirect = true →
    ∃ word rest, back = word :: rest ∧ word.isSeparator = false ∧
      ∃ c ∈ (ofCommand command).components, ⟨t, some word⟩ ∈ c.redirects

variable {command : String}

/-- What an accepted command line vouches for, as far as the check of its operators and that of its components go. -/
theorem isAccepted_ofCommand {security precedence : Bool}
    (accepted : ((ofCommand command).check security precedence).errors = []) :
    (Check.operators none (Token.scan command)).errors = [] ∧
      ∀ c ∈ (ofCommand command).components, c.isEmpty = false → c.IsAccepted := by
  rw [Report.errors_eq_nil_iff, Check.structure_errorsAre, check] at accepted
  split at accepted
  · simp [Check.inCommand] at accepted
  · simp only [Report.errorsAre_append] at accepted
    obtain ⟨⟨⟨⟨operators, components⟩, _⟩, _⟩, _⟩ := accepted
    exact ⟨Report.errors_eq_nil_iff.2 operators, Check.components_areAccepted (Report.errors_eq_nil_iff.2 components)⟩

/-- An accepted command line is sound for its background and redirect operators if and only if no word stands behind
`|` and `&` in a row. -/
theorem operatorsSound_iff {security precedence : Bool}
    (accepted : ((ofCommand command).check security precedence).errors = []) :
    OperatorsSound command ↔ Token.holdUnseenTrail (Token.scan command) = false := by
  constructor
  · refine fun sound => Bool.eq_false_iff.2 fun trails => ?_
    obtain ⟨pipe, background, word, ⟨front, back, whole⟩, unseen⟩ := Token.holdUnseenTrail_iff.1 trails
    simp only [Token.isUnseenTrail, Bool.and_eq_true, Bool.not_eq_true'] at unseen
    obtain ⟨u, between, _⟩ := sound.background (front ++ [pipe]) [] back background word (by simp [← whole]) unseen.1.2
      unseen.2
    exact List.not_mem_nil between
  · intro seen
    obtain ⟨operators, components⟩ := isAccepted_ofCommand accepted
    have inPlace : Token.AreInPlace none (Token.scan command) := ⟨fun _ => Token.exists_operator, operators, seen⟩
    have ends {front back : List Token} {t : Token} (whole : Token.scan command = front ++ t :: back)
        (background : t.spells .background = true) : back = [] :=
      Component.eq_nil_of_suffix inPlace components (fun _ member => absurd member (Option.not_mem_none _))
        ⟨front, whole.symm⟩ background
    constructor
    · intro front between back t word whole background _
      exact absurd (ends whole background) (by simp)
    · intro front back t whole redirect
      have ahead : ∀ u ∈ front, u.spells .background = false := by
        refine fun u member => Bool.eq_false_iff.2 fun background => ?_
        obtain ⟨before, after, rfl⟩ := List.append_of_mem member
        exact absurd (ends (by rw [whole, List.append_assoc, List.cons_append]) background) (by simp)
      have held := @Token.mem_redirects t front back ahead redirect
      rw [← whole, ← redirects_ofTokens] at held
      obtain ⟨c, member, held⟩ := List.mem_flatMap.1 held
      have filled : c.isEmpty = false :=
        List.isEmpty_eq_false_iff_exists_mem.2 ⟨t, Component.holdsRedirects_gather _ c member _ held⟩
      obtain ⟨word, leads⟩ := Option.isSome_iff_exists.1 ((components c member filled).targets _ held)
      obtain ⟨rest, rfl, plain⟩ := Token.exists_of_leadingWord? leads
      dsimp only at leads
      rw [leads] at held
      exact ⟨word, rest, rfl, plain, c, member, held⟩

theorem operatorsSound_of_sorting :
    ((ofCommand "sort < names > out 2>&1 | wc &").check false false).errors = [] ∧
      OperatorsSound "sort < names > out 2>&1 | wc &" := by
  have accepted : ((ofCommand "sort < names > out 2>&1 | wc &").check false false).errors = [] := by decide +kernel
  exact ⟨accepted, (operatorsSound_iff accepted).2 (by decide +kernel)⟩

/-- No check sees the word that trails the background operator, as nothing stands between that and the pipe. -/
theorem not_operatorsSound_of_piped_background :
    ((ofCommand "cmd | & client").check true true).errors = [] ∧ ¬ OperatorsSound "cmd | & client" := by
  have accepted : ((ofCommand "cmd | & client").check true true).errors = [] := by decide +kernel
  refine ⟨accepted, fun sound => ?_⟩
  have scanned : Token.scan "cmd | & client" =
      [⟨.argument, "cmd", "cmd", ⟨0, 3⟩, {}⟩, ⟨.separator, "|", "|", ⟨4, 5⟩, {}⟩] ++
        ⟨.separator, "&", "&", ⟨6, 7⟩, {}⟩ :: ([] ++ ⟨.argument, "client", "client", ⟨8, 14⟩, {}⟩ :: []) := by
    decide +kernel
  obtain ⟨u, between, _⟩ := sound.background _ _ _ _ _ scanned (by decide) rfl
  exact List.not_mem_nil between

end Structure

end ShellTemplate
