import ShellTemplate.Proofs.FilledWords

namespace ShellTemplate

/-- A part of a built command: a character that no supplied value changes, or a supplied value with the
context that it is escaped for. -/
inductive Mark where
  | fixed (c : Char)
  | value (context : QuoteContext) (text : String)
deriving DecidableEq, Repr

namespace Mark

def source : Mark → List Char
  | .fixed c => [c]
  | .value context text => (context.escape text).toList

def mapValue (f : String → String) : Mark → Mark
  | .fixed c => .fixed c
  | .value context text => .value context (f text)

/-- A value is not blank. -/
def IsFilled : Mark → Prop
  | .fixed _ => True
  | .value _ text => Text.isBlankText text = false

def ofText (text : String) : List Mark :=
  text.toList.map .fixed

/-- The text that the marks stand for. -/
def text (ms : List Mark) : String :=
  String.ofList (ms.flatMap source)

@[simp] theorem text_ofText (s : String) : text (ofText s) = s := by
  have chars (cs : List Char) : (cs.map Mark.fixed).flatMap source = cs := by
    induction cs with
    | nil => rfl
    | cons c cs ih => rw [List.map_cons, List.flatMap_cons, ih]; rfl
  rw [text, ofText, chars, String.ofList_toList]

theorem text_append (ms ns : List Mark) : text (ms ++ ns) = text ms ++ text ns := by
  rw [text, List.flatMap_append, String.ofList_append]
  rfl

theorem isFilled_of_mem_ofText {s : String} {m : Mark} (member : m ∈ ofText s) : m.IsFilled := by
  obtain ⟨c, _, rfl⟩ := List.mem_map.1 member
  trivial

end Mark

namespace Build

/-- The second computation makes what the first one makes, with more detail, and what it makes is sound. -/
structure Mirrors {α β : Type} (forget : β → α) (sound : β → Prop) (x : Except BuildError α)
    (y : Except BuildError β) : Prop where
  same : x = y.map forget
  sound : ∀ b, y = .ok b → sound b

namespace Mirrors

variable {α β γ δ : Type} {forget : β → α} {sound : β → Prop} {forget' : δ → γ} {sound' : δ → Prop}

theorem ok {b : β} (holds : sound b) : Mirrors forget sound (.ok (forget b)) (.ok b) :=
  ⟨rfl, fun _ same => by cases same; exact holds⟩

theorem error (e : BuildError) : Mirrors forget sound (.error e) (.error e) :=
  ⟨rfl, nofun⟩

theorem bind {x : Except BuildError α} {y : Except BuildError β} {f : α → Except BuildError γ}
    {g : β → Except BuildError δ} (mirrors : Mirrors forget sound x y)
    (next : ∀ b, sound b → Mirrors forget' sound' (f (forget b)) (g b)) :
    Mirrors forget' sound' (x >>= f) (y >>= g) := by
  obtain ⟨rfl, holds⟩ := mirrors
  cases y with
  | error e => exact error e
  | ok b => exact next b (holds b rfl)

theorem mapM {ε : Type} {f : ε → Except BuildError α} {g : ε → Except BuildError β} {xs : List ε}
    (mirrors : ∀ x ∈ xs, Mirrors forget sound (f x) (g x)) :
    Mirrors (List.map forget) (fun bs => ∀ b ∈ bs, sound b) (xs.mapM f) (xs.mapM g) := by
  induction xs with
  | nil => exact @ok _ _ (List.map forget) _ [] (by simp)
  | cons x xs ih =>
    rw [List.mapM_cons, List.mapM_cons]
    refine (mirrors x List.mem_cons_self).bind fun b holds => ?_
    refine (ih fun y member => mirrors y (List.mem_cons_of_mem _ member)).bind fun bs all => ?_
    exact @ok _ _ (List.map forget) _ (b :: bs) (List.forall_mem_cons.2 ⟨holds, all⟩)

theorem of_map {f : α → β} (x : Except BuildError α) (back : ∀ a, forget (f a) = a) (holds : ∀ a, sound (f a)) :
    Mirrors forget sound x (x.map f) := by
  cases x with
  | error e => exact error e
  | ok a => exact ⟨by simp [Except.map, back], fun b same => by cases same; exact holds a⟩

theorem map {x : Except BuildError α} {y : Except BuildError β} {f : α → γ} {g : β → δ}
    (mirrors : Mirrors forget sound x y) (commutes : ∀ b, f (forget b) = forget' (g b))
    (kept : ∀ b, sound b → sound' (g b)) : Mirrors forget' sound' (x.map f) (y.map g) := by
  obtain ⟨rfl, holds⟩ := mirrors
  cases y with
  | error e => exact error e
  | ok b => exact ⟨by simp [Except.map, commutes], fun c same => by cases same; exact kept b (holds b rfl)⟩

end Mirrors

/-- The marks of one occurrence of a placeholder inside a word. -/
def occurrenceMarks (d : Definition) (s : Selection) (word : String) (p : Placeholder) :
    Except BuildError (List Mark) :=
  match s.value? p.name with
  | some value => .ok [.value (.atByte word p.span.start) value]
  | none => (occurrenceText d s word p).map Mark.ofText

/-- The marks of a word whose placeholders are filled. -/
def fillMarks (d : Definition) (s : Selection) (word : String) (position : Nat) (cs : List Char) :
    Except BuildError (List Mark) :=
  match _found : Placeholder.leading? cs with
  | some (name, kind, after) => do
    let stop := position + Text.width (Placeholder.written name kind)
    let marks ← occurrenceMarks d s word ⟨name, kind, ⟨position, stop⟩⟩
    return marks ++ (← fillMarks d s word stop after)
  | none =>
    match cs with
    | [] => .ok []
    | c :: rest => do return .fixed c :: (← fillMarks d s word (position + c.utf8Size) rest)
termination_by cs.length
decreasing_by
  · exact Placeholder.leading?_shorter _found
  · simp

theorem fillMarks_of_leading? {d : Definition} {s : Selection} {word : String} {position : Nat}
    {cs after : List Char} {name : String} {kind : PlaceholderKind}
    (found : Placeholder.leading? cs = some (name, kind, after)) :
    fillMarks d s word position cs = (do
      let stop := position + Text.width (Placeholder.written name kind)
      let marks ← occurrenceMarks d s word ⟨name, kind, ⟨position, stop⟩⟩
      return marks ++ (← fillMarks d s word stop after)) := by
  rw [fillMarks]
  split
  · rename_i again
    rw [found] at again
    simp only [Option.some.injEq, Prod.mk.injEq] at again
    obtain ⟨rfl, rfl, rfl⟩ := again
    rfl
  · simp_all

theorem fillMarks_of_none {d : Definition} {s : Selection} {word : String} {position : Nat} {c : Char}
    {rest : List Char} (none : Placeholder.leading? (c :: rest) = none) :
    fillMarks d s word position (c :: rest) = (do
      return .fixed c :: (← fillMarks d s word (position + c.utf8Size) rest)) := by
  rw [fillMarks]
  split
  · simp_all
  · rfl

theorem fillMarks_nil (d : Definition) (s : Selection) (word : String) (position : Nat) :
    fillMarks d s word position [] = .ok [] := by
  rw [fillMarks]
  rfl

/-- All values among the marks are filled. -/
def AllFilled (ms : List Mark) : Prop :=
  ∀ m ∈ ms, m.IsFilled

theorem allFilled_ofText (text : String) : AllFilled (Mark.ofText text) :=
  fun _ => Mark.isFilled_of_mem_ofText

theorem not_blank_of_value? {s : Selection} {name value : String} (given : s.value? name = some value) :
    Text.isBlankText value = false := by
  have kept := (Option.filter_eq_some_iff.1 given).2
  simpa using kept

section

variable {d : Definition} {s : Selection}

theorem mirrors_ofText (x : Except BuildError String) : Mirrors Mark.text AllFilled x (x.map Mark.ofText) :=
  .of_map x Mark.text_ofText allFilled_ofText

theorem escaped_eq_text (escapes : s.escapeValues = true) (context : QuoteContext) (value : String) :
    escaped s context value = Mark.text [.value context value] := by
  simp [escaped, escapes, Mark.text, Mark.source]

theorem mirrors_value {context : QuoteContext} {value : String} (escapes : s.escapeValues = true)
    (filled : Text.isBlankText value = false) :
    Mirrors Mark.text AllFilled (.ok (escaped s context value)) (.ok [.value context value]) := by
  rw [escaped_eq_text escapes]
  exact .ok (List.forall_mem_singleton.2 filled)

theorem occurrenceText_mirrors (escapes : s.escapeValues = true) (word : String) (p : Placeholder) :
    Mirrors Mark.text AllFilled (occurrenceText d s word p) (occurrenceMarks d s word p) := by
  unfold occurrenceMarks
  cases given : s.value? p.name with
  | none => exact mirrors_ofText _
  | some value =>
    have text : occurrenceText d s word p = .ok (escaped s (.atByte word p.span.start) value) := by
      simp [occurrenceText, occurrenceValue?, given]
    rw [text]
    exact mirrors_value escapes (not_blank_of_value? given)

theorem fillFrom_mirrors (escapes : s.escapeValues = true) (word : String) (position : Nat) (cs : List Char) :
    Mirrors Mark.text AllFilled (fillFrom d s word position cs) (fillMarks d s word position cs) := by
  fun_induction Placeholder.scanFrom position cs with
  | case1 position cs name kind after found stop ih =>
    rw [fillFrom_of_leading? found, fillMarks_of_leading? found]
    refine (occurrenceText_mirrors escapes word _).bind fun ms filled => ?_
    refine ih.bind fun more others => ?_
    rw [← Mark.text_append]
    refine .ok fun m member => ?_
    exact (List.mem_append.1 member).elim (filled m) (others m)
  | case2 =>
    rw [fillFrom_nil, fillMarks_nil]
    exact .ok (b := []) (List.forall_mem_nil _)
  | case3 position c rest none ih =>
    rw [fillFrom_of_none none, fillMarks_of_none none]
    refine ih.bind fun more others => ?_
    rw [show String.singleton c = Mark.text [.fixed c] from rfl, ← Mark.text_append]
    exact .ok (List.forall_mem_cons.2 ⟨trivial, others⟩)

/-- The marks of a template word in the built command. -/
def wordMarks (d : Definition) (s : Selection) (t : Token) : Except BuildError (List Mark) :=
  if !t.flags.isPlaceholder then .ok (Mark.ofText t.text) else fillMarks d s t.text 0 t.text.toList

theorem wordText_mirrors (executable : s.mode = .executable) (escapes : s.escapeValues = true) (t : Token) :
    Mirrors Mark.text AllFilled (wordText d s t) (wordMarks d s t) := by
  unfold wordText wordMarks
  cases t.flags.isPlaceholder with
  | false => exact mirrors_ofText (.ok t.text)
  | true =>
    simp only [executable]
    exact fillFrom_mirrors escapes t.text 0 t.text.toList

/-- The marks of the value of a selected option. -/
def optionMarks (d : Definition) (s : Selection) (o : CommandOption) : Except BuildError (List Mark) :=
  match (s.optionValue? o).or ((d.optionParameter? o).bind fun p => s.value? p.name) with
  | some value => .ok [.value .unquoted value]
  | none => (optionText d s o).map Mark.ofText

theorem not_blank_of_optionValue? {o : CommandOption} {value : String} (given : s.optionValue? o = some value) :
    Text.isBlankText value = false := by
  have kept := List.find?_some given
  simpa using kept

theorem optionText_mirrors (executable : s.mode = .executable) (escapes : s.escapeValues = true)
    (o : CommandOption) : Mirrors Mark.text AllFilled (optionText d s o) (optionMarks d s o) := by
  unfold optionMarks
  cases given : (s.optionValue? o).or ((d.optionParameter? o).bind fun p => s.value? p.name) with
  | none => exact mirrors_ofText _
  | some value =>
    rw [Option.or_eq_some_iff] at given
    have text : optionValue? s o (d.optionParameter? o) = some value := by
      rcases given with own | ⟨none, bound⟩
      · simp [optionValue?, own]
      · obtain ⟨p, found, own⟩ := Option.bind_eq_some_iff.1 bound
        simp [optionValue?, none, found, own]
    have filled : Text.isBlankText value = false := by
      rcases given with own | ⟨_, bound⟩
      · exact not_blank_of_optionValue? own
      · obtain ⟨p, _, own⟩ := Option.bind_eq_some_iff.1 bound
        exact not_blank_of_value? own
    simp only [optionText, executable, text]
    exact mirrors_value escapes filled

/-- The marks of a parameter that the template never mentions. -/
def parameterMarks? (s : Selection) (p : Parameter) : Except BuildError (Option (List Mark)) :=
  match s.value? p.name with
  | some value => .ok (some [.value .unquoted value])
  | none => (parameterText? s p).map (Option.map Mark.ofText)

theorem parameterText?_mirrors (executable : s.mode = .executable) (escapes : s.escapeValues = true)
    (p : Parameter) :
    Mirrors (Option.map Mark.text) (fun ms? => ∀ ms, ms? = some ms → AllFilled ms) (parameterText? s p)
      (parameterMarks? s p) := by
  unfold parameterMarks?
  cases given : s.value? p.name with
  | none =>
    refine .of_map _ ?_ ?_
    · intro text?
      cases text? <;> simp
    · rintro text? ms same
      obtain ⟨text, _, rfl⟩ := Option.map_eq_some_iff.1 same
      exact allFilled_ofText text
  | some value =>
    have filled := not_blank_of_value? given
    have text : parameterText? s p = .ok (some (Mark.text [.value .unquoted value])) := by
      rw [← escaped_eq_text escapes]
      simp [parameterText?, executable, given]
    rw [text]
    refine Mirrors.ok (b := some [Mark.value .unquoted value]) ?_
    rintro _ ⟨⟩
    exact List.forall_mem_singleton.2 filled

end

end Build

end ShellTemplate
