import ShellTemplate.Proofs.RenderOrder

namespace ShellTemplate

/-- The lists of a component that hold its tokens. -/
inductive Component.Slot where
  | baseCommand
  | subcommand
  | option
  | argument
  | parameter
  | target
  | trailing
deriving DecidableEq, Repr

namespace Component

def slot (c : Component) : Slot → List Token
  | .baseCommand => c.baseCommand?.toList
  | .subcommand => c.subcommand?.toList
  | .option => c.options
  | .argument => c.arguments
  | .parameter => c.parameters
  | .target => c.redirects.filterMap (·.target?)
  | .trailing => c.trailing

/-- What the component with the given number holds in a slot; nothing if there is no such component. -/
def heldAt (cs : List Component) (index : Nat) (slot : Slot) : List Token :=
  cs[index]?.elim [] (·.slot slot)

/-- The slot that a word goes to when it is attached to a component. -/
def slotFor (c : Component) (t : Token) : Slot :=
  match t.kind with
  | .option => .option
  | .parameter => .parameter
  | .quoted | .separator => .argument
  | .argument | .path =>
    match c.baseCommand? with
    | none => .baseCommand
    | some base =>
      if c.subcommand?.isNone && t.kind == .argument && (knownSubcommands base.value).contains t.value then
        .subcommand
      else .argument

theorem mem_words_of_mem_slot {c : Component} {s : Slot} {t : Token} (member : t ∈ c.slot s) : t ∈ c.words := by
  cases s <;> simp only [slot] at member <;> simp [words, member]

theorem slot_eq_nil_of_isEmpty {c : Component} (held : c.IsHeld) (empty : c.isEmpty = true) (s : Slot) :
    c.slot s = [] := by
  refine List.eq_nil_iff_forall_not_mem.2 fun t member => ?_
  have inside := held t (mem_words_of_mem_slot member)
  rw [List.isEmpty_iff.1 empty] at inside
  exact absurd inside List.not_mem_nil

theorem slot_empty (s : Slot) : slot {} s = [] := by
  cases s <;> rfl

theorem slot_addWord {c : Component} {t : Token} (plain : t.isSeparator = false) (s : Slot) :
    (c.addWord t).slot s = c.slot s ++ if c.slotFor t = s then [t] else [] := by
  unfold addWord slotFor
  cases kind : t.kind with
  | separator => simp [Token.isSeparator, kind] at plain
  | option | parameter | quoted => cases s <;> simp [slot]
  | argument | path =>
    dsimp only
    cases base : c.baseCommand? with
    | none => cases s <;> simp [slot, base]
    | some b =>
      dsimp only
      split
      · rename_i first
        have free : c.subcommand? = none := by
          simp only [Bool.and_eq_true, Option.isNone_iff_eq_none] at first
          exact first.1.1
        cases s <;> simp [slot, free, base]
      · cases s <;> simp [slot, base]

theorem slot_addRedirect (c : Component) (r : Redirect) (s : Slot) :
    (c.addRedirect r).slot s = c.slot s ++ if Slot.target = s then r.target?.toList else [] := by
  cases s <;> cases target : r.target? <;> simp [slot, addRedirect, target]

theorem slot_addRedirect_none (c : Component) (operator : Token) (s : Slot) :
    (c.addRedirect ⟨operator, none⟩).slot s = c.slot s := by
  rw [slot_addRedirect]
  simp

theorem slot_terminated (c : Component) (t : Token) (s : Slot) :
    { c with terminator? := some t }.slot s = c.slot s := by
  cases s <;> rfl

theorem addTrailing_pair (c : Component) (t u : Token) :
    c.addTrailing [t, u] = (c.addTrailing [t]).addTrailing [u] := by
  simp [addTrailing]

theorem slot_addTrailing (c : Component) (ts : List Token) (s : Slot) :
    (c.addTrailing ts).slot s = c.slot s ++ if Slot.trailing = s then ts else [] := by
  cases s <;> simp [slot, addTrailing]

end Component

namespace Structure

open Component

/-- Tokens with the component and slot that each is put into, if any. -/
abbrev Placing := List (Token × Option (Nat × Slot))

namespace Placing

/-- The tokens that are put into a slot of a component. -/
def held (p : Placing) (index : Nat) (slot : Slot) : List Token :=
  (p.filter fun entry => entry.2 = some (index, slot)).map Prod.fst

/-- A word is put into a slot, and an operator into none unless it trails a background operator. -/
structure Fits (t : Token) (place? : Option (Nat × Slot)) : Prop where
  word : t.isSeparator = false → place?.isSome = true
  operator : t.isSeparator = true → ∀ index slot, place? = some (index, slot) → slot = .trailing

/-- Each token has one entry, in the order of the source. -/
structure Places (p : Placing) (ts : List Token) : Prop where
  tokens : p.map Prod.fst = ts
  fits : ∀ entry ∈ p, Fits entry.1 entry.2

/-- The same entries, one component later. -/
def later (p : Placing) : Placing :=
  p.map fun entry => (entry.1, entry.2.map fun place => (place.1 + 1, place.2))

variable {p : Placing} {ts : List Token} {t : Token} {place? : Option (Nat × Slot)}

theorem held_cons (index : Nat) (slot : Slot) :
    held ((t, place?) :: p) index slot = (if place? = some (index, slot) then [t] else []) ++ p.held index slot := by
  unfold held
  by_cases here : place? = some (index, slot) <;> simp [here]

theorem held_later_zero (slot : Slot) : p.later.held 0 slot = [] := by
  simp only [held, later, List.map_eq_nil_iff, List.filter_eq_nil_iff, List.forall_mem_map, decide_eq_true_eq]
  rintro ⟨t, place?⟩ _
  cases place? <;> simp

theorem held_later_succ (index : Nat) (slot : Slot) : p.later.held (index + 1) slot = p.held index slot := by
  induction p with
  | nil => rfl
  | cons entry p ih =>
    have moved : (entry.2.map fun place => (place.1 + 1, place.2)) = some (index + 1, slot) ↔
        entry.2 = some (index, slot) := by
      cases entry.2 <;> simp [Prod.ext_iff]
    rw [later, List.map_cons, held_cons, ← later, ih]
    simp only [moved]
    exact (held_cons index slot).symm

theorem Fits.of_word (plain : t.isSeparator = false) (index : Nat) (slot : Slot) : Fits t (some (index, slot)) :=
  ⟨fun _ => rfl, fun operator => by rw [plain] at operator; contradiction⟩

theorem Fits.of_operator (operator : t.isSeparator = true) : Fits t none :=
  ⟨fun plain => by rw [operator] at plain; contradiction, nofun⟩

theorem Fits.of_trailing (t : Token) (index : Nat) : Fits t (some (index, .trailing)) :=
  ⟨fun _ => rfl, fun _ _ _ same => (Prod.mk.inj (Option.some.inj same)).2.symm⟩

theorem Places.nil : Places [] [] :=
  ⟨rfl, by simp⟩

theorem Places.cons (fits : Fits t place?) (places : Places p ts) : Places ((t, place?) :: p) (t :: ts) :=
  ⟨by simp [places.tokens], List.forall_mem_cons.2 ⟨fits, places.fits⟩⟩

theorem Places.later (places : Places p ts) : Places p.later ts := by
  refine ⟨?_, ?_⟩
  · rw [← places.tokens, Placing.later, List.map_map]
    rfl
  · intro entry member
    obtain ⟨before, inside, rfl⟩ := List.mem_map.1 member
    obtain ⟨word, operator⟩ := places.fits before inside
    refine ⟨fun plain => by simpa using word plain, fun isOperator index slot same => ?_⟩
    obtain ⟨place, found, moved⟩ := Option.map_eq_some_iff.1 same
    rw [← (Prod.mk.inj moved).2]
    exact operator isOperator place.1 place.2 found

end Placing

open Placing

/-- The entries of a placing tell what the components hold beside `front`, which the first one holds
already. -/
def Tells (p : Placing) (front : Component) (cs : List Component) : Prop :=
  ∀ index slot, heldAt cs index slot = (if index = 0 then front.slot slot else []) ++ p.held index slot

section

variable {p : Placing} {front : Component} {cs : List Component} {t : Token}

theorem Tells.nil (c : Component) : Tells [] c [c] := by
  intro index slot
  cases index <;> simp [heldAt, held]

/-- A component is complete, and the next one begins empty. -/
theorem Tells.closed (tells : Tells p {} cs) (c : Component) : Tells p.later c (c :: cs) := by
  intro index slot
  cases index with
  | zero => simp [heldAt, held_later_zero]
  | succ index =>
    have rest := tells index slot
    simp only [slot_empty, ite_self, List.nil_append] at rest
    simpa [heldAt, held_later_succ] using rest

/-- A token that is put into a slot of the component that is being read. -/
theorem Tells.placed {grown : Component} {here : Slot} (tells : Tells p grown cs)
    (grows : ∀ slot, grown.slot slot = front.slot slot ++ if here = slot then [t] else []) :
    Tells ((t, some (0, here)) :: p) front cs := by
  intro index slot
  rw [tells index slot, held_cons]
  cases index with
  | zero => simp [grows]
  | succ index => simp

theorem Tells.skipped (tells : Tells p front cs) : Tells ((t, none) :: p) front cs := by
  intro index slot
  rw [tells index slot, held_cons]
  simp

theorem Tells.congr {other : Component} (tells : Tells p other cs) (same : ∀ slot, other.slot slot = front.slot slot) :
    Tells p front cs := by
  intro index slot
  rw [tells index slot, same]

end

/-- Where the tokens go: while a component is being read, and behind a background operator. The two are
proved together, as each operator leads from one to the other. -/
theorem exists_placing (ts : List Token) :
    (∀ current : Component, current.IsHeld →
        ∃ p, Places p ts ∧ Tells p current (gather current (Element.ofTokens ts))) ∧
      ∀ closed : Component, ∃ p, Places p ts ∧ Tells p closed (gatherTrailing closed (Element.ofTokens ts)) := by
  fun_induction Element.ofTokens ts with
  | case1 =>
    refine ⟨fun current held => ⟨[], .nil, ?_⟩, fun closed => ⟨[], .nil, .nil closed⟩⟩
    unfold gather
    split
    · rename_i empty
      intro index slot
      cases index <;> simp [heldAt, Placing.held, slot_eq_nil_of_isEmpty held empty]
    · exact .nil current
  | case2 t rest plain ih =>
    rw [Bool.not_eq_true'] at plain
    constructor
    · intro current held
      obtain ⟨p, places, tells⟩ := ih.1 (current.addWord t) (held.addWord plain)
      exact ⟨_, .cons (.of_word plain 0 (current.slotFor t)) places, tells.placed (slot_addWord plain)⟩
    · intro closed
      obtain ⟨p, places, tells⟩ := ih.2 (closed.addTrailing [t])
      exact ⟨_, .cons (.of_trailing t 0) places, tells.placed (slot_addTrailing closed [t])⟩
  | case3 t rest operator _ ih =>
    have isOperator : t.isSeparator = true := by simpa using operator
    refine ⟨fun current held => ?_, fun closed => ?_⟩
    · obtain ⟨p, places, tells⟩ := ih.1 current held
      exact ⟨_, .cons (.of_operator isOperator) places, tells.skipped⟩
    · obtain ⟨p, places, tells⟩ := ih.2 closed
      exact ⟨_, .cons (.of_operator isOperator) places, tells.skipped⟩
  | case4 t operator op _ _ =>
    have isOperator : t.isSeparator = true := by simpa using operator
    refine ⟨fun current held => ⟨_, .cons (.of_operator isOperator) .nil, ?_⟩,
      fun closed => ⟨_, .cons (.of_trailing t 0) .nil, (Tells.nil _).placed (slot_addTrailing closed [t])⟩⟩
    rw [gather, gather, isEmpty_addRedirect]
    exact ((Tells.nil _).congr (slot_addRedirect_none current t)).skipped
  | case5 t operator op _ _ next more _ ih =>
    have isOperator : t.isSeparator = true := by simpa using operator
    constructor
    · intro current held
      obtain ⟨p, places, tells⟩ := ih.1 (current.addRedirect ⟨t, none⟩) held.addRedirect
      exact ⟨_, .cons (.of_operator isOperator) places, (tells.congr (slot_addRedirect_none current t)).skipped⟩
    · intro closed
      obtain ⟨p, places, tells⟩ := ih.2 (closed.addTrailing [t])
      exact ⟨_, .cons (.of_trailing t 0) places, tells.placed (slot_addTrailing closed [t])⟩
  | case6 t operator op _ _ next more plain ih =>
    have isOperator : t.isSeparator = true := by simpa using operator
    rw [Bool.not_eq_true] at plain
    constructor
    · intro current held
      obtain ⟨p, places, tells⟩ := ih.1 (current.addRedirect ⟨t, some next⟩) held.addRedirect
      exact ⟨_, .cons (.of_operator isOperator) (.cons (.of_word plain 0 .target) places),
        (tells.placed (slot_addRedirect current ⟨t, some next⟩)).skipped⟩
    · intro closed
      obtain ⟨p, places, tells⟩ := ih.2 ((closed.addTrailing [t]).addTrailing [next])
      rw [gatherTrailing, Option.toList_some, addTrailing_pair]
      exact ⟨_, .cons (.of_trailing t 0) (.cons (.of_trailing next 0) places),
        (tells.placed (slot_addTrailing _ [next])).placed (slot_addTrailing closed [t])⟩
  | case7 t rest operator op _ _ ih =>
    have isOperator : t.isSeparator = true := by simpa using operator
    obtain ⟨fresh, freshPlaces, freshTells⟩ := ih.1 {} isHeld_empty
    constructor
    · intro current held
      rw [gather]
      split
      · exact ⟨_, .cons (.of_operator isOperator) freshPlaces.later,
          ((freshTells.closed _).congr (slot_terminated current t)).skipped⟩
      · obtain ⟨p, places, tells⟩ := ih.2 { current with terminator? := some t }
        exact ⟨_, .cons (.of_operator isOperator) places, (tells.congr (slot_terminated current t)).skipped⟩
    · intro closed
      rw [gatherTrailing]
      split
      · exact ⟨_, .cons (.of_operator isOperator) freshPlaces.later, (freshTells.closed closed).skipped⟩
      · obtain ⟨p, places, tells⟩ := ih.2 closed
        exact ⟨_, .cons (.of_operator isOperator) places, tells.skipped⟩

/-- No token is lost, repeated or moved before another. Each word goes to one slot of one component, and each
slot holds the tokens that go there in the order of the source; the operators are kept beside the
components, and one that also goes to a slot trails a background operator. Tokens that stand one after
the other are laid out again as they came. -/
theorem ofTokens_places (ts : List Token) :
    (∃ p, Places p ts ∧ ∀ index slot, heldAt (ofTokens ts).components index slot = p.held index slot) ∧
      (ofTokens ts).separators = ts.filter (·.isSeparator) ∧
      (ts.Pairwise (fun t u => t.span.start < u.span.start) →
        (ofTokens ts).render = Piece.join (ts.map fun t => ⟨t.text, t.isSeparator⟩)) := by
  refine ⟨?_, rfl, fun rising => ?_⟩
  · obtain ⟨p, places, tells⟩ := (exists_placing ts).1 {} isHeld_empty
    refine ⟨p, places, fun index slot => ?_⟩
    have held := tells index slot
    rwa [slot_empty, ite_self, List.nil_append] at held
  · rw [render, ordered_ofTokens rising]
    rfl

/-- A redirect behind a background operator, with a later command. -/
theorem ofTokens_places_behind_background :
    let token (kind : TokenKind) (text : String) (start : Nat) : Token := ⟨kind, text, text, ⟨start, start + 1⟩, {}⟩
    let ts := [token .argument "sleep" 0, token .separator "&" 6, token .separator ">" 8, token .path "out" 10,
      token .separator ";" 13, token .argument "ls" 15]
    ts.Pairwise (fun t u => t.span.start < u.span.start) ∧
      heldAt (ofTokens ts).components 0 .trailing = [token .separator ">" 8, token .path "out" 10] ∧
      (ofTokens ts).render = "sleep & > out; ls" := by
  intro token ts
  have rising : ts.Pairwise fun t u => t.span.start < u.span.start := by decide
  exact ⟨rising, by decide +kernel, ((ofTokens_places ts).2.2 rising).trans (by decide +kernel)⟩

end Structure

end ShellTemplate
