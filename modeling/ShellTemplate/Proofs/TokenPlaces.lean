import ShellTemplate.Proofs.TokenTiles

namespace ShellTemplate

theorem Text.width_toList (s : String) : width s.toList = s.utf8ByteSize := by
  have size (cs : List Char) : width cs = (String.ofList cs).utf8ByteSize := by
    induction cs with
    | nil => rfl
    | cons c cs ih => rw [width_cons, ih, String.ofList_cons, String.utf8ByteSize_append, String.utf8ByteSize_singleton]
  rw [size, String.ofList_toList]

theorem Operator.symbol_length_pos (op : Operator) : 0 < op.symbol.length := by
  cases op <;> decide

/-- Of the operators that the characters begin with, the longest is found. -/
theorem Operator.length_symbol_le {cs : List Char} {op other : Operator} (found : leading? cs = some op)
    (begins : other.symbol.toList <+: cs) : other.symbol.length ≤ op.symbol.length := by
  obtain ⟨rest, rfl⟩ := begins
  cases grows : other.growsBy rest with
  | false =>
    rw [leading?_symbol_append grows] at found
    cases found
    exact Nat.le_refl _
  | true =>
    -- only an operator of one character grows
    have single : other.symbol.length = 1 := by
      revert grows
      cases rest with
      | nil => simp [growsBy]
      | cons d rest => cases other <;> simp [growsBy, grow?, symbol] <;> intros <;> rfl
    have positive := op.symbol_length_pos
    omega

namespace Token

/-- A token at byte `start` that the characters begin with, and what follows it. -/
inductive Begins (start : Nat) : List Char → Token → List Char → Prop
  | angled {cs w after} : Word.angled? cs = some (w, after) → Begins start cs (w.token start) after
  | word {cs} : Word.stopsAt cs = false → Begins start cs ((Word.read cs).1.token start) (Word.read cs).2
  | operator {cs op} : Operator.leading? cs = some op → Begins start cs (op.token start []) (op.skip cs)
  | descriptor {cs op} : Word.stopsAt cs = false → Operator.leading? (Word.read cs).2 = some op →
      op.isRedirect = true → (Word.read cs).1.isDescriptor = true →
      Begins start cs (op.token start (Word.read cs).1.source) (op.skip (Word.read cs).2)

theorem Begins.whole {start : Nat} {cs after : List Char} {t : Token} (begins : Begins start cs t after) :
    t.text.toList ++ after = cs ∧ t.span = ⟨start, start + Text.width t.text.toList⟩ := by
  cases begins with
  | angled found => exact ⟨by simpa using Word.source_append_of_angled? found, by simp⟩
  | word => exact ⟨by simpa using Word.source_read cs, by simp⟩
  | operator found => exact ⟨by simpa using Operator.symbol_append_skip found, by simp⟩
  | descriptor _ found _ _ =>
    refine ⟨?_, by simp⟩
    rw [Operator.token_text, String.toList_ofList, List.append_assoc, Operator.symbol_append_skip found, Word.source_read]

/-- Every token begins somewhere in the characters from byte `position` on, and with nothing behind it no
token follows. -/
def Placed (position : Nat) (cs : List Char) (ts : List Token) : Prop :=
  ∀ earlier t later, ts = earlier ++ t :: later →
    ∃ before rest after, cs = before ++ rest ∧ Begins (position + Text.width before) rest t after ∧
      (after = [] → later = [])

theorem Placed.cons {position : Nat} {cs after : List Char} {t : Token} {ts : List Token}
    (begins : Begins position cs t after) (ends : after = [] → ts = []) (tail : Placed t.span.stop after ts) :
    Placed position cs (t :: ts) := by
  intro earlier u later split
  obtain ⟨whole, span⟩ := begins.whole
  cases earlier with
  | nil =>
    cases split
    exact ⟨[], cs, after, rfl, by simpa using begins, ends⟩
  | cons first earlier =>
    obtain ⟨rfl, others⟩ := List.cons.inj split
    obtain ⟨before, rest, behind, rfl, found, last⟩ := tail earlier u later others
    refine ⟨t.text.toList ++ before, rest, behind, by rw [List.append_assoc, whole], ?_, last⟩
    rw [span] at found
    rwa [Text.width_append, ← Nat.add_assoc]

theorem Scans.eq_nil {position : Nat} {ts : List Token} (scans : Scans position [] ts) : ts = [] :=
  scans.eq_scanFrom.trans Scans.done.eq_scanFrom.symm

theorem Scans.placed {position : Nat} {cs : List Char} {ts : List Token} (scans : Scans position cs ts) :
    Placed position cs ts := by
  induction scans with
  | done => exact fun earlier t later split => by simp at split
  | @blank position c rest ts _ _ ih =>
    intro earlier t later split
    obtain ⟨before, rest', after, rfl, begins, last⟩ := ih earlier t later split
    exact ⟨c :: before, rest', after, rfl, by rwa [Text.width_cons, ← Nat.add_assoc], last⟩
  | angled found tail ih => exact .cons (.angled found) (fun none => (none ▸ tail).eq_nil) ih
  | operator _ found tail ih => exact .cons (.operator found) (fun none => (none ▸ tail).eq_nil) ih
  | descriptor goesOn found redirects isDescriptor tail ih =>
    exact .cons (.descriptor goesOn found redirects isDescriptor) (fun none => (none ▸ tail).eq_nil) ih
  | @attached position middle cs op ts goesOn found _ start tail ih =>
    subst start
    refine .cons (.word goesOn) (fun none => ?_) (.cons (.operator found) (fun none => (none ▸ tail).eq_nil) ih)
    simp [none, Operator.leading?] at found
  | word goesOn _ tail ih => exact .cons (.word goesOn) (fun none => (none ▸ tail).eq_nil) ih

theorem Tiles.apart {position : Nat} {cs : List Char} {ts : List Token} (tiles : Tiles position cs ts) :
    ts.Pairwise fun t u => t.span.stop ≤ u.span.start := by
  induction tiles with
  | done => exact .nil
  | token _ _ _ tail ih => exact List.pairwise_cons.2 ⟨tail.start_ge, ih⟩

/-- A character of two pieces put together stands in the first or in the second. -/
theorem append_eq_cons {front back before after : List Char} {c : Char}
    (same : front ++ back = before ++ c :: after) :
    (∃ more, front = before ++ c :: more) ∨ ∃ more, before = front ++ more ∧ back = more ++ c :: after := by
  rcases List.append_eq_append_iff.1 same with ⟨more, inside, behind⟩ | ⟨more, inside, behind⟩
  · exact Or.inr ⟨more, inside, behind⟩
  · cases more with
    | nil => exact Or.inr ⟨[], by simpa using inside.symm, by simpa using behind.symm⟩
    | cons d more =>
      obtain ⟨rfl, _⟩ := List.cons.inj behind
      exact Or.inl ⟨more, inside⟩

/-- A character of which some byte is in no token is a blank. -/
theorem Tiles.isBlank {position byte : Nat} {cs before after : List Char} {ts : List Token} {c : Char}
    (tiles : Tiles position cs ts) (split : cs = before ++ c :: after) (low : position + Text.width before ≤ byte)
    (high : byte < position + Text.width before + c.utf8Size)
    (outside : ∀ t ∈ ts, byte < t.span.start ∨ t.span.stop ≤ byte) : Text.isBlank c = true := by
  induction tiles generalizing before with
  | @done position gap blank => exact List.all_eq_true.1 blank c (by simp [split])
  | @token position gap t rest ts blank _ span _ ih =>
    obtain ⟨here, others⟩ := List.forall_mem_cons.1 outside
    rcases append_eq_cons split with ⟨more, inGap⟩ | ⟨front, rfl, behindGap⟩
    · exact List.all_eq_true.1 blank c (by simp [inGap])
    · rcases append_eq_cons behindGap with ⟨more, inText⟩ | ⟨behind, rfl, behindText⟩
      · -- the bytes of such a character are in the token
        simp only [span, inText, Text.width_append, Text.width_cons] at here low high
        omega
      · refine ih behindText ?_ ?_ others <;> rw [span] <;> simp only [Text.width_append] at low high ⊢ <;> omega

/-- An operator of a command line with the descriptor number that stands against it, and what follows. Only
redirects take a number, and of the operators that begin there it is the longest. -/
structure IsOperatorAt (command : String) (t : Token) (before digits : String) (op : Operator) (after : String) :
    Prop where
  whole : command = before ++ (digits ++ (op.symbol ++ after))
  start : t.span.start = before.utf8ByteSize
  text : t.text = digits ++ op.symbol
  value : t.value = op.symbol
  digit : ∀ c ∈ digits.toList, c.isDigit = true
  redirects : digits = "" ∨ op.isRedirect = true
  longest : ∀ other : Operator, other.symbol.toList <+: (op.symbol ++ after).toList →
    other.symbol.length ≤ op.symbol.length

/-- The tokens are slices of the command line, one behind the other, with nothing but blanks outside them. -/
structure IsTiling (command : String) (ts : List Token) : Prop where
  apart : ts.Pairwise fun t u => t.span.stop ≤ u.span.start
  filled : ∀ t ∈ ts, t.span.start < t.span.stop ∧ t.span.stop ≤ command.utf8ByteSize
  slice : ∀ t ∈ ts, ∃ before after, command = before ++ t.text ++ after ∧
    t.span = ⟨before.utf8ByteSize, (before ++ t.text).utf8ByteSize⟩
  blank : ∀ before c after, command = before ++ String.singleton c ++ after →
    ∀ byte, before.utf8ByteSize ≤ byte → byte < (before ++ String.singleton c).utf8ByteSize →
      (∀ t ∈ ts, byte < t.span.start ∨ t.span.stop ≤ byte) → Text.isBlank c = true
  operator : ∀ t ∈ ts, t.isSeparator = true → ∃ before digits op after, IsOperatorAt command t before digits op after

/-- Every token of a command line begins at its place there. -/
theorem exists_begins {command : String} {t : Token} (member : t ∈ scan command) :
    ∃ before rest after, command.toList = before ++ rest ∧ Begins (Text.width before) rest t after := by
  obtain ⟨earlier, later, split⟩ := List.append_of_mem member
  obtain ⟨before, rest, after, whole, begins, _⟩ := (scans_scanFrom 0 command.toList).placed earlier t later split
  exact ⟨before, rest, after, whole, by simpa using begins⟩

theorem exists_slice {command : String} {t : Token} (member : t ∈ scan command) :
    ∃ before after, command = before ++ t.text ++ after ∧
      t.span = ⟨before.utf8ByteSize, (before ++ t.text).utf8ByteSize⟩ := by
  obtain ⟨before, rest, after, whole, begins⟩ := exists_begins member
  obtain ⟨rfl, span⟩ := begins.whole
  refine ⟨String.ofList before, String.ofList after, ?_, ?_⟩
  · rw [← String.toList_inj]
    simpa using whole
  · simpa [← Text.width_toList, Text.width_append] using span

theorem isOperatorAt_of_begins {command : String} {before rest after : List Char} {t : Token}
    (whole : command.toList = before ++ rest) (begins : Begins (Text.width before) rest t after)
    (operator : t.isSeparator = true) :
    ∃ digits op, IsOperatorAt command t (String.ofList before) digits op (String.ofList after) := by
  have place : (String.ofList before).utf8ByteSize = Text.width before := by
    rw [← Text.width_toList, String.toList_ofList]
  cases begins with
  | angled => simp [Word.token_isSeparator] at operator
  | word => simp [Word.token_isSeparator] at operator
  | @operator op found =>
    have split := Operator.symbol_append_skip found
    refine ⟨"", op, ?_, place.symm, ?_, rfl, by simp, Or.inl rfl, fun other begins => ?_⟩
    · rw [← String.toList_inj, whole]
      simp [split]
    · simp
    · exact Operator.length_symbol_le found (by simpa [split] using begins)
  | @descriptor op _ found redirects isDescriptor =>
    have split := Operator.symbol_append_skip found
    have digit := (Bool.and_eq_true_iff.1 isDescriptor).2
    refine ⟨String.ofList (Word.read rest).1.source, op, ?_, place.symm, ?_, rfl, ?_, Or.inr redirects,
      fun other begins => ?_⟩
    · rw [← String.toList_inj, whole]
      simp [split, Word.source_read]
    · simp
    · simpa using digit
    · exact Operator.length_symbol_le found (by simpa [split] using begins)

/-- The tokens of a command line tile it. -/
theorem isTiling_scan (command : String) : IsTiling command (scan command) where
  apart := (tiles_scan command).apart
  filled t member := by
    obtain ⟨before, after, whole, span⟩ := exists_slice member
    obtain ⟨c, more, text⟩ := List.exists_cons_of_ne_nil ((tiles_scan command).text_ne_nil t member)
    have positive : 0 < t.text.utf8ByteSize := by
      have size := c.utf8Size_pos
      rw [← Text.width_toList, text, Text.width_cons]
      omega
    rw [span, whole]
    simp only [String.utf8ByteSize_append]
    omega
  slice _ := exists_slice
  blank before c after whole byte low high outside := by
    rw [← Text.width_toList] at low
    rw [String.utf8ByteSize_append, String.utf8ByteSize_singleton, ← Text.width_toList] at high
    have split : command.toList = before.toList ++ c :: after.toList := by simp [whole]
    exact (tiles_scan command).isBlank split (by omega) (by omega) outside
  operator t member isOperator := by
    obtain ⟨before, rest, after, whole, begins⟩ := exists_begins member
    obtain ⟨digits, op, found⟩ := isOperatorAt_of_begins whole begins isOperator
    exact ⟨_, digits, op, _, found⟩

end Token

end ShellTemplate
