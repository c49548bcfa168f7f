import ShellTemplate.Structure.Render

namespace ShellTemplate

namespace Element

/-- The words of a step, operators left out. -/
def words : Element → List Token
  | .word t => [t]
  | .redirect r => r.target?.toList
  | .control _ _ => []

def tokens : Element → List Token
  | .word t => [t]
  | .redirect r => r.operator :: r.target?.toList
  | .control _ t => [t]

/-- Only a token that is no operator makes a word. -/
def IsPlain : Element → Prop
  | .word t => t.isSeparator = false
  | _ => True

theorem ofTokens_word {t : Token} (word : t.isSeparator = false) (rest : List Token) :
    ofTokens (t :: rest) = .word t :: ofTokens rest := by
  rw [ofTokens.eq_def]
  simp [word]

/-- What is known of the tokens of a step: words and targets are no operators, and the others are what they spell. -/
def IsRead : Element → Prop
  | .word t => t.isSeparator = false
  | .redirect r => r.operator.isSeparator = true ∧
      (∃ op, Operator.ofSymbol? r.operator.value = some op ∧ op.isRedirect = true) ∧
      ∀ t ∈ r.target?, t.isSeparator = false
  | .control op t => t.isSeparator = true ∧ Operator.ofSymbol? t.value = some op ∧ op.isRedirect = false

theorem forall_mem_ofTokens (ts : List Token) : ∀ e ∈ ofTokens ts, e.IsRead := by
  fun_induction ofTokens ts with
  | case1 => exact fun _ member => absurd member List.not_mem_nil
  | case2 t rest plain ih => exact List.forall_mem_cons.2 ⟨by simpa [IsRead] using plain, ih⟩
  | case3 t rest _ _ ih => exact ih
  | case4 t operator op known redirects =>
    exact List.forall_mem_singleton.2 ⟨by simpa using operator, ⟨op, known, redirects⟩, by simp⟩
  | case5 t operator op known redirects next more _ ih =>
    exact List.forall_mem_cons.2 ⟨⟨by simpa using operator, ⟨op, known, redirects⟩, by simp⟩, ih⟩
  | case6 t operator op known redirects next more word ih =>
    refine List.forall_mem_cons.2 ⟨⟨by simpa using operator, ⟨op, known, redirects⟩, ?_⟩, ih⟩
    rintro _ ⟨⟩
    simpa using word
  | case7 t rest operator op known control ih =>
    exact List.forall_mem_cons.2 ⟨⟨by simpa using operator, known, by simpa using control⟩, ih⟩

theorem isPlain_of_mem {ts : List Token} {e : Element} (member : e ∈ ofTokens ts) : e.IsPlain := by
  have read := forall_mem_ofTokens ts e member
  cases e with
  | word t => exact read
  | redirect r => trivial
  | control op t => trivial

theorem mem_of_mem_tokens {ts : List Token} {u : Token} (member : u ∈ (ofTokens ts).flatMap tokens) : u ∈ ts := by
  fun_induction ofTokens ts with
  | case1 => simp at member
  | case2 t rest _ ih =>
    simp only [List.flatMap_cons, tokens, List.mem_append, List.mem_singleton] at member
    rcases member with rfl | later
    · exact List.mem_cons_self
    · exact List.mem_cons_of_mem _ (ih later)
  | case3 t rest _ _ ih => exact List.mem_cons_of_mem _ (ih member)
  | case4 t _ op _ _ => simpa [tokens] using member
  | case5 t _ op _ _ next more _ ih =>
    simp only [List.flatMap_cons, tokens, Option.toList_none, List.mem_append, List.mem_singleton] at member
    rcases member with rfl | later
    · exact List.mem_cons_self
    · exact List.mem_cons_of_mem _ (ih later)
  | case6 t _ op _ _ next more _ ih =>
    simp only [List.flatMap_cons, tokens, Option.toList_some, List.mem_append, List.mem_cons, List.not_mem_nil,
      or_false] at member
    rcases member with (rfl | rfl) | later
    · exact List.mem_cons_self
    · exact List.mem_cons_of_mem _ List.mem_cons_self
    · exact List.mem_cons_of_mem _ (List.mem_cons_of_mem _ (ih later))
  | case7 t rest _ op _ _ ih =>
    simp only [List.flatMap_cons, tokens, List.mem_append, List.mem_singleton] at member
    rcases member with rfl | later
    · exact List.mem_cons_self
    · exact List.mem_cons_of_mem _ (ih later)

theorem mem_words_ofTokens {ts : List Token} {u : Token} (member : u ∈ ts) (plain : u.isSeparator = false) :
    u ∈ (ofTokens ts).flatMap words := by
  fun_induction ofTokens ts with
  | case1 => simp at member
  | case2 t rest _ ih =>
    rw [List.flatMap_cons, List.mem_append]
    exact (List.mem_cons.1 member).imp List.mem_singleton.2 ih
  | case3 t rest operator _ ih =>
    rcases List.mem_cons.1 member with rfl | later
    · simp [plain] at operator
    · exact ih later
  | case4 t operator op _ _ =>
    cases List.mem_singleton.1 member
    simp [plain] at operator
  | case5 t operator op _ _ next more _ ih =>
    rw [List.flatMap_cons, List.mem_append]
    rcases List.mem_cons.1 member with rfl | later
    · simp [plain] at operator
    · exact Or.inr (ih later)
  | case6 t operator op _ _ next more _ ih =>
    rw [List.flatMap_cons, List.mem_append]
    rcases List.mem_cons.1 member with rfl | later
    · simp [plain] at operator
    · exact (List.mem_cons.1 later).imp (by rintro rfl; exact List.mem_singleton_self _) ih
  | case7 t rest operator op _ _ ih =>
    rw [List.flatMap_cons, List.mem_append]
    rcases List.mem_cons.1 member with rfl | later
    · simp [plain] at operator
    · exact Or.inr (ih later)

end Element

namespace Component

theorem mem_words_addWord_iff {c : Component} {t u : Token} (plain : t.isSeparator = false) :
    u ∈ (c.addWord t).words ↔ u ∈ c.words ∨ u = t := by
  unfold addWord
  cases kind : t.kind with
  | separator => simp [Token.isSeparator, kind] at plain
  | option => simp only [words, List.mem_append, List.mem_singleton]; grind
  | parameter => simp only [words, List.mem_append, List.mem_singleton]; grind
  | quoted => simp only [words, List.mem_append, List.mem_singleton]; grind
  | argument | path =>
    dsimp only
    cases base : c.baseCommand? with
    | none => simp only [words, base, List.mem_append, Option.toList_some, Option.toList_none]; grind
    | some b =>
      dsimp only
      split
      · rename_i first
        have none : c.subcommand? = none := by
          simp only [Bool.and_eq_true, Option.isNone_iff_eq_none] at first
          exact first.1.1
        simp only [words, base, none, List.mem_append, Option.toList_some, Option.toList_none]; grind
      · simp only [words, base, List.mem_append, List.mem_singleton, Option.toList_some]; grind

theorem mem_words_addRedirect_iff {c : Component} {r : Redirect} {u : Token} :
    u ∈ (c.addRedirect r).words ↔ u ∈ c.words ∨ u ∈ r.target?.toList := by
  unfold addRedirect
  simp only [words, List.mem_append, List.filterMap_append, List.filterMap_cons, List.filterMap_nil]
  cases r.target? with
  | none => simp
  | some target => simp only [Option.toList_some]; grind

theorem mem_words_addTrailing_iff {c : Component} {ts : List Token} {u : Token} :
    u ∈ (c.addTrailing ts).words ↔ u ∈ c.words ∨ u ∈ ts := by
  simp only [addTrailing, words, List.mem_append, or_assoc]

/-- Gathering puts nothing into a component that is not in the steps. -/
theorem mem_of_mem_gather {es : List Element} (plain : ∀ e ∈ es, e.IsPlain) {u : Token} :
    (∀ current, u ∈ (gather current es).flatMap words → u ∈ current.words ∨ u ∈ es.flatMap Element.tokens) ∧
      ∀ closed, u ∈ (gatherTrailing closed es).flatMap words → u ∈ closed.words ∨ u ∈ es.flatMap Element.tokens := by
  induction es with
  | nil =>
    constructor
    · intro current member
      unfold gather at member
      split at member
      · simp at member
      · exact Or.inl (by simpa using member)
    · intro closed member
      exact Or.inl (by simpa [gatherTrailing] using member)
  | cons e es ih =>
    obtain ⟨ihGather, ihTrailing⟩ := ih fun e member => plain e (List.mem_cons_of_mem _ member)
    have fresh (c : Component) (member : u ∈ (c :: gather {} es).flatMap words) :
        u ∈ c.words ∨ u ∈ es.flatMap Element.tokens := by
      rw [List.flatMap_cons, List.mem_append] at member
      exact member.imp_right fun later => (ihGather {} later).resolve_left (by simp [words])
    rw [List.flatMap_cons, List.mem_append]
    constructor
    · intro current member
      cases e with
      | word t =>
        have whole := ihGather _ member
        rw [mem_words_addWord_iff (plain _ List.mem_cons_self)] at whole
        simp only [Element.tokens, List.mem_singleton]
        exact or_assoc.1 whole
      | redirect r =>
        have whole := ihGather _ member
        rw [mem_words_addRedirect_iff] at whole
        simp only [Element.tokens, List.mem_cons]
        grind
      | control op t =>
        unfold gather at member
        dsimp only at member
        split at member
        · exact (fresh _ member).imp_right Or.inr
        · exact (ihTrailing _ member).imp_right Or.inr
    · intro closed member
      cases e with
      | word t =>
        have whole := ihTrailing _ member
        rw [mem_words_addTrailing_iff] at whole
        exact or_assoc.1 whole
      | redirect r =>
        have whole := ihTrailing _ member
        rw [mem_words_addTrailing_iff] at whole
        exact or_assoc.1 whole
      | control op t =>
        unfold gatherTrailing at member
        split at member
        · exact (fresh _ member).imp_right Or.inr
        · exact (ihTrailing _ member).imp_right Or.inr

/-- What the empty component has and every way to extend a component keeps, all gathered components have. -/
theorem forall_mem_gather {P : Component → Prop} (empty : P {})
    (word : ∀ c t, P c → P (c.addWord t)) (redirect : ∀ c r, P c → P (c.addRedirect r))
    (terminated : ∀ (c : Component) t, P c → P { c with terminator? := some t })
    (trailing : ∀ c ts, P c → P (c.addTrailing ts)) (es : List Element) :
    (∀ current, P current → ∀ c ∈ gather current es, P c) ∧ ∀ closed, P closed → ∀ c ∈ gatherTrailing closed es, P c := by
  induction es with
  | nil =>
    constructor
    · intro current holds c member
      unfold gather at member
      split at member
      · exact absurd member List.not_mem_nil
      · rwa [List.mem_singleton.1 member]
    · intro closed holds c member
      rwa [List.mem_singleton.1 member]
  | cons e es ih =>
    obtain ⟨ihGather, ihTrailing⟩ := ih
    have fresh {closed : Component} (holds : P closed) : ∀ c ∈ closed :: gather {} es, P c :=
      List.forall_mem_cons.2 ⟨holds, ihGather {} empty⟩
    constructor
    · intro current holds
      cases e with
      | word t => exact ihGather _ (word current t holds)
      | redirect r => exact ihGather _ (redirect current r holds)
      | control op t =>
        have closed := terminated current t holds
        unfold gather
        dsimp only
        split
        · exact fresh closed
        · exact ihTrailing _ closed
    · intro closed holds
      cases e with
      | word t => exact ihTrailing _ (trailing closed [t] holds)
      | redirect r => exact ihTrailing _ (trailing closed _ holds)
      | control op t =>
        unfold gatherTrailing
        split
        · exact fresh holds
        · exact ihTrailing closed holds

/-- A component that holds no token holds no word either. -/
def IsHeld (c : Component) : Prop :=
  ∀ t ∈ c.words, t ∈ c.tokens

theorem isHeld_empty : IsHeld {} := by
  simp [IsHeld, words]

/-- Wherever a word goes, it is among the tokens, and what is beside the words stays. -/
theorem unsorted_addWord (c : Component) (t : Token) :
    (c.addWord t).tokens = c.tokens ++ [t] ∧ (c.addWord t).redirects = c.redirects ∧
      (c.addWord t).terminator? = c.terminator? ∧ (c.addWord t).trailing = c.trailing := by
  unfold addWord
  cases t.kind with
  | argument | path =>
    dsimp only
    split
    · exact ⟨rfl, rfl, rfl, rfl⟩
    · split <;> exact ⟨rfl, rfl, rfl, rfl⟩
  | _ => exact ⟨rfl, rfl, rfl, rfl⟩

theorem tokens_addWord (c : Component) (t : Token) : (c.addWord t).tokens = c.tokens ++ [t] :=
  (unsorted_addWord c t).1

theorem isEmpty_addWord (c : Component) (t : Token) : (c.addWord t).isEmpty = false := by
  simp [isEmpty, tokens_addWord]

theorem isEmpty_addRedirect (c : Component) (r : Redirect) : (c.addRedirect r).isEmpty = false := by
  simp [isEmpty, addRedirect]

theorem IsHeld.addWord {c : Component} {t : Token} (held : c.IsHeld) (plain : t.isSeparator = false) :
    (c.addWord t).IsHeld := by
  intro u member
  rw [tokens_addWord, List.mem_append, List.mem_singleton]
  exact ((mem_words_addWord_iff plain).1 member).imp_left (held u)

theorem IsHeld.addRedirect {c : Component} {r : Redirect} (held : c.IsHeld) : (c.addRedirect r).IsHeld := by
  intro u member
  refine List.mem_append.2 ((mem_words_addRedirect_iff.1 member).imp (held u) ?_)
  exact List.mem_cons_of_mem _

/-- Gathering loses no word. -/
theorem mem_gather {es : List Element} (plain : ∀ e ∈ es, e.IsPlain) {u : Token} :
    (∀ current : Component, current.IsHeld → u ∈ current.words ∨ u ∈ es.flatMap Element.words →
        u ∈ (gather current es).flatMap words) ∧
      ∀ closed : Component, u ∈ closed.words ∨ u ∈ es.flatMap Element.words →
        u ∈ (gatherTrailing closed es).flatMap words := by
  induction es with
  | nil =>
    constructor
    · intro current held member
      have inside : u ∈ current.words := by simpa using member
      have filled : current.isEmpty = false := List.isEmpty_eq_false_iff_exists_mem.2 ⟨u, held u inside⟩
      unfold gather
      rw [filled]
      simpa using inside
    · intro closed member
      simpa [gatherTrailing] using member
  | cons e es ih =>
    obtain ⟨ihGather, ihTrailing⟩ := ih fun e member => plain e (List.mem_cons_of_mem _ member)
    have fresh (c : Component) (member : u ∈ c.words ∨ u ∈ es.flatMap Element.words) :
        u ∈ (c :: gather {} es).flatMap words := by
      rw [List.flatMap_cons, List.mem_append]
      exact member.imp_right fun later => ihGather {} isHeld_empty (Or.inr later)
    rw [List.flatMap_cons, List.mem_append]
    constructor
    · intro current held member
      cases e with
      | word t =>
        have isPlain : t.isSeparator = false := plain _ List.mem_cons_self
        refine ihGather _ (held.addWord isPlain) ?_
        rw [mem_words_addWord_iff isPlain]
        simp only [Element.words, List.mem_singleton] at member
        exact or_assoc.2 member
      | redirect r =>
        refine ihGather _ held.addRedirect ?_
        rw [mem_words_addRedirect_iff]
        exact or_assoc.2 member
      | control op t =>
        have later : u ∈ ({ current with terminator? := some t } : Component).words ∨
            u ∈ es.flatMap Element.words := by simpa [Element.words, words] using member
        unfold gather
        dsimp only
        split
        · exact fresh _ later
        · exact ihTrailing _ later
    · intro closed member
      cases e with
      | word t =>
        refine ihTrailing _ ?_
        rw [mem_words_addTrailing_iff]
        exact or_assoc.2 member
      | redirect r =>
        refine ihTrailing _ ?_
        rw [mem_words_addTrailing_iff]
        simp only [Element.words] at member
        simp only [List.mem_cons]
        grind
      | control op t =>
        have later : u ∈ closed.words ∨ u ∈ es.flatMap Element.words := by simpa [Element.words] using member
        unfold gatherTrailing
        split
        · exact fresh _ later
        · exact ihTrailing _ later

end Component

end ShellTemplate
