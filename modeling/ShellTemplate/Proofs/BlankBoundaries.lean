import ShellTemplate.Proofs.RenderRoundTrip
import ShellTemplate.Proofs.SpacedWords
import ShellTemplate.Proofs.TokenPlaces

namespace ShellTemplate

theorem Text.ended_of_blanks {gap : List Char} (blank : gap.all isBlank = true) (filled : gap ≠ []) (rest : List Char) :
    (gap ++ rest).head?.all isBlank = true := by
  cases gap with
  | nil => contradiction
  | cons c gap => exact (Bool.and_eq_true_iff.1 blank).1

section

variable {cs rest : List Char}

/-- No operator at the end of a text grows by a blank behind it. -/
theorem Operator.leading?_append (ended : rest.head?.all Text.isBlank = true) :
    leading? (cs ++ rest) = leading? cs := by
  match cs with
  | [] => exact Word.leading?_of_ended ended
  | [c] =>
    cases rest with
    | nil => rfl
    | cons d rest =>
      have apart {e : Char} (mark : isMark e = true) : d ≠ e := Token.mark_ne_blank ended mark
      have single : ofMarks? c d = none := by
        simp [ofMarks?, apart (show isMark '&' = true by decide), apart (show isMark '|' = true by decide),
          apart (show isMark '>' = true by decide), apart (show isMark '<' = true by decide)]
      rw [leading?_one, List.cons_append, List.nil_append, leading?_two, single, Option.none_or]
  | c :: d :: tail => rw [List.cons_append, List.cons_append, leading?_two, leading?_two]

theorem Operator.skip_append_of_leading? {op : Operator} (found : leading? cs = some op) (rest : List Char) :
    op.skip (cs ++ rest) = op.skip cs ++ rest := by
  have whole := symbol_append_skip found
  rw [← whole, List.append_assoc, skip_append, skip_append]

namespace Word

theorem not_blank_of_mem_angled {name dots : List Char} (identifier : Text.isIdentifier name = true)
    (shape : dots = [] ∨ dots = ['.', '.', '.']) : ∀ c ∈ '<' :: (name ++ '>' :: dots), Text.isBlank c = false := by
  have inside := fun c member => Text.not_blank_of_isNameChar (Text.isNameChar_of_isIdentifier identifier c member)
  have dot : Text.isBlank '.' = false := by decide
  have dotted : ∀ c ∈ dots, Text.isBlank c = false := by
    rcases shape with rfl | rfl <;> simp [dot]
  simp only [List.forall_mem_cons, List.forall_mem_append]
  exact ⟨by decide, inside, by decide, dotted⟩

/-- Characters without a blank do not reach over one. -/
theorem exists_append_of_solid {run behind : List Char} (ended : rest.head?.all Text.isBlank = true)
    (solid : ∀ c ∈ run, Text.isBlank c = false) (whole : cs ++ rest = run ++ behind) :
    ∃ after, cs = run ++ after ∧ behind = after ++ rest := by
  rcases List.append_eq_append_iff.1 whole with ⟨more, longer, split⟩ | ⟨after, inside, split⟩
  · cases more with
    | nil => exact ⟨[], by simpa using longer.symm, by simpa using split.symm⟩
    | cons c more =>
      have blank : Text.isBlank c = true := by simpa [split] using ended
      rw [solid c (by simp [longer])] at blank
      contradiction
  · exact ⟨after, inside, split⟩

theorem ended_append {after : List Char} (blank : after.head?.all Text.isBlank = true)
    (ended : rest.head?.all Text.isBlank = true) : (after ++ rest).head?.all Text.isBlank = true := by
  cases after with
  | nil => exact ended
  | cons => exact blank

/-- The search for the bracket that closes a name does not go on behind a blank. -/
theorem angled?_append (cs : List Char) (ended : rest.head?.all Text.isBlank = true) :
    angled? (cs ++ rest) = (angled? cs).map fun found => (found.1, found.2 ++ rest) := by
  cases found : angled? cs with
  | some result =>
    obtain ⟨w, after⟩ := result
    obtain ⟨name, dots, identifier, shape, blank, rfl, rfl⟩ := angled?_eq_some_iff.1 found
    exact angled?_eq_some_iff.2 ⟨name, dots, identifier, shape, ended_append blank ended, by simp, rfl⟩
  | none =>
    refine Option.eq_none_iff_forall_ne_some.2 fun ⟨w, behind⟩ again => ?_
    obtain ⟨name, dots, identifier, shape, blank, whole, _⟩ := angled?_eq_some_iff.1 again
    have split : cs ++ rest = '<' :: (name ++ '>' :: dots) ++ behind := by simpa using whole
    obtain ⟨after, inside, rfl⟩ := exists_append_of_solid ended (not_blank_of_mem_angled identifier shape) split
    have ends : after.head?.all Text.isBlank = true := by
      cases after with
      | nil => rfl
      | cons => exact blank
    have here := angled?_eq_some_iff.2 ⟨name, dots, identifier, shape, ends, by simpa using inside, rfl⟩
    rw [found] at here
    contradiction

/-- A word that an operator ends is closed. -/
theorem isOpen_of_leading? {op : Operator} (found : Operator.leading? (read cs).2 = some op) :
    (read cs).1.isOpen = false := by
  refine Bool.eq_false_iff.2 fun unclosed => ?_
  rw [rest_of_open unclosed] at found
  exact nomatch found

/-- A word stops before a blank, and so does the reader behind it, unless the word is left open. -/
theorem read_append (ended : rest.head?.all Text.isBlank = true) (closed : (read cs).1.isOpen = false) :
    read (cs ++ rest) = ((read cs).1, (read cs).2 ++ rest) := by
  have stop : stopsAt ((read cs).2 ++ rest) = true := by
    have stops := stopsAt_rest cs
    cases behind : (read cs).2 with
    | nil => exact stopsAt_of_ended ended
    | cons c after => rwa [behind] at stops
  have again := read_again stop fun unclosed => by rw [closed] at unclosed; contradiction
  rwa [← List.append_assoc, source_read] at again

end Word

end

namespace Token

/-- A word that ends with a quoted or braced run that nothing closed, or with a backslash that escapes nothing. -/
def isOpen (t : Token) : Bool :=
  (Word.read t.text.toList).1.isOpen

/-- Whether a command line ends inside a quoted run or a braced run, or right behind a backslash that escapes
nothing: whatever followed it would belong to its last word. -/
def endsOpen (command : String) : Bool :=
  (scan command).getLast?.any isOpen

/-- The same token in a text that begins `offset` bytes earlier. -/
def shift (offset : Nat) (t : Token) : Token :=
  { t with span := t.span.shift offset }

theorem isOpen_wordToken (cs : List Char) (position : Nat) :
    ((Word.read cs).1.token position).isOpen = (Word.read cs).1.isOpen := by
  have again : Word.read ((Word.read cs).1.source ++ []) = ((Word.read cs).1, []) :=
    Word.read_again rfl fun _ => rfl
  rw [List.append_nil] at again
  rw [isOpen, Word.token_text, String.toList_ofList, again]

theorem shift_wordToken (offset position : Nat) (w : Word) :
    (w.token position).shift offset = w.token (position + offset) := by
  simp [shift, Span.shift, Word.token, Nat.add_right_comm]

theorem shift_operatorToken (offset position : Nat) (digits : List Char) (op : Operator) :
    (op.token position digits).shift offset = op.token (position + offset) digits := by
  simp [shift, Span.shift, Operator.token, Nat.add_right_comm]

/-- Where a text begins tells the places of its tokens and nothing else. -/
theorem Scans.shift {position : Nat} {cs : List Char} {ts : List Token} (scans : Scans position cs ts) (offset : Nat) :
    Scans (position + offset) cs (ts.map (Token.shift offset)) := by
  induction scans with
  | done => exact .done
  | blank blank _ ih => exact .blank blank (by rwa [Nat.add_right_comm])
  | angled found _ ih =>
    rw [List.map_cons, shift_wordToken]
    exact .angled found (by rwa [Nat.add_right_comm])
  | operator plain found _ ih =>
    rw [List.map_cons, shift_operatorToken]
    exact .operator plain found (by simpa [Nat.add_right_comm] using ih)
  | descriptor goesOn found redirects isDescriptor _ ih =>
    rw [List.map_cons, shift_operatorToken]
    exact .descriptor goesOn found redirects isDescriptor (by simpa [Nat.add_right_comm] using ih)
  | attached goesOn found apart start _ ih =>
    rw [List.map_cons, List.map_cons, shift_wordToken, shift_operatorToken]
    refine .attached goesOn found apart ?_ (by simpa [Nat.add_right_comm] using ih)
    rw [start, Nat.add_right_comm]
  | word goesOn none _ ih =>
    rw [List.map_cons, shift_wordToken]
    exact .word goesOn none (by rwa [Nat.add_right_comm])

/-- What stands behind a blank is scanned as if nothing stood before it. One case for each way to go on: the
look-ahead of each ends at the blank. -/
theorem Scans.append {position : Nat} {cs rest : List Char} {ts us : List Token} (scans : Scans position cs ts)
    (ended : rest.head?.all Text.isBlank = true) (closed : ∀ t ∈ ts, t.isOpen = false)
    (later : Scans (position + Text.width cs) rest us) : Scans position (cs ++ rest) (ts ++ us) := by
  induction scans with
  | done => exact later
  | blank blank _ ih => exact .blank blank (ih closed (by rwa [Text.width_cons, ← Nat.add_assoc] at later))
  | @angled position cs w after ts found _ ih =>
    have whole := Word.source_append_of_angled? found
    rw [← whole, Text.width_append, ← Nat.add_assoc] at later
    have again := Word.angled?_append cs ended
    rw [found] at again
    exact .angled again (ih (List.forall_mem_cons.1 closed).2 later)
  | @operator position cs op ts plain found _ ih =>
    have whole := Operator.symbol_append_skip found
    rw [← whole, Text.width_append, ← Nat.add_assoc] at later
    have again := Word.angled?_append cs ended
    rw [plain] at again
    refine .operator again ((Operator.leading?_append ended).trans found) ?_
    rw [Operator.skip_append_of_leading? found]
    exact ih (List.forall_mem_cons.1 closed).2 (by simpa using later)
  | @descriptor position cs op ts goesOn found redirects isDescriptor _ ih =>
    have whole := Word.source_read cs
    rw [← Operator.symbol_append_skip found] at whole
    have step := @Scans.descriptor position (cs ++ rest) op (ts ++ us) (Word.stopsAt_append goesOn rest)
    rw [Word.read_append ended (Word.isOpen_of_leading? found)] at step
    refine step ((Operator.leading?_append ended).trans found) redirects isDescriptor ?_
    rw [Operator.skip_append_of_leading? found]
    rw [← whole] at later
    exact ih (List.forall_mem_cons.1 closed).2 (by simpa [Text.width_append, Nat.add_assoc] using later)
  | @attached position middle cs op ts goesOn found apart start _ ih =>
    have whole := Word.source_read cs
    rw [← Operator.symbol_append_skip found] at whole
    have step := @Scans.attached position middle (cs ++ rest) op (ts ++ us) (Word.stopsAt_append goesOn rest)
    rw [Word.read_append ended (Word.isOpen_of_leading? found)] at step
    refine step ((Operator.leading?_append ended).trans found) apart start ?_
    rw [Operator.skip_append_of_leading? found]
    rw [← whole] at later
    subst start
    have others := (List.forall_mem_cons.1 (List.forall_mem_cons.1 closed).2).2
    exact ih others (by simpa [Text.width_append, Nat.add_assoc] using later)
  | @word position cs ts goesOn none _ ih =>
    obtain ⟨first, others⟩ := List.forall_mem_cons.1 closed
    rw [isOpen_wordToken] at first
    have step := @Scans.word position (cs ++ rest) (ts ++ us) (Word.stopsAt_append goesOn rest)
    rw [Word.read_append ended first] at step
    refine step ((Operator.leading?_append ended).trans none) (ih others ?_)
    rw [← Word.source_read cs, Text.width_append, ← Nat.add_assoc] at later
    exact later

theorem Begins.eq_nil_of_isOpen {start : Nat} {cs after : List Char} {t : Token} (begins : Begins start cs t after)
    (unclosed : t.isOpen = true) : after = [] := by
  cases begins with
  | angled found =>
    obtain ⟨name, dots, _, _, _, _, rfl⟩ := Word.angled?_eq_some_iff.1 found
    rw [isOpen, Word.token_text, String.toList_ofList, Word.source_map_plain, Word.read_of_stopsAt rfl] at unclosed
    contradiction
  | word goesOn =>
    rw [isOpen_wordToken] at unclosed
    exact Word.rest_of_open unclosed
  | @operator op found =>
    have stop : Word.stopsAt op.symbol.toList = true := by cases op <;> rfl
    rw [isOpen, Operator.token_text, String.toList_ofList, List.nil_append, Word.read_of_stopsAt stop] at unclosed
    contradiction
  | @descriptor op goesOn found redirects isDescriptor =>
    have closed := Word.isOpen_of_leading? found
    have stop : Word.stopsAt op.symbol.toList = true := by cases op <;> rfl
    have again : Word.read ((Word.read cs).1.source ++ op.symbol.toList) = ((Word.read cs).1, op.symbol.toList) :=
      Word.read_again stop fun unclosed => by rw [closed] at unclosed; contradiction
    rw [isOpen, Operator.token_text, String.toList_ofList, again, closed] at unclosed
    contradiction

/-- A token that is left open is the last one, and the command line ends with it. -/
theorem ends_of_isOpen {command : String} {earlier later : List Token} {t : Token}
    (found : scan command = earlier ++ t :: later) (unclosed : t.isOpen = true) :
    later = [] ∧ t.span.stop = command.utf8ByteSize := by
  obtain ⟨before, rest, after, whole, begins, last⟩ := (scans_scanFrom 0 command.toList).placed earlier t later found
  have ends := begins.eq_nil_of_isOpen unclosed
  subst ends
  obtain ⟨text, span⟩ := begins.whole
  rw [List.append_nil] at text
  refine ⟨last rfl, ?_⟩
  rw [span, ← Text.width_toList, whole, Text.width_append, text, Nat.zero_add]

theorem isOpen_of_mem {command : String} (closed : endsOpen command = false) :
    ∀ t ∈ scan command, t.isOpen = false := by
  intro t member
  refine Bool.eq_false_iff.2 fun unclosed => ?_
  obtain ⟨earlier, later, split⟩ := List.append_of_mem member
  obtain ⟨rfl, _⟩ := ends_of_isOpen split unclosed
  rw [endsOpen, split, List.getLast?_concat] at closed
  simp [unclosed] at closed

/-- The tokens of two command lines with blanks between them are those of the first one and, moved behind it, those
of the second one, exactly if the first one does not end open. -/
theorem scan_append_blanks_iff {gap : String} (blank : Text.isBlankText gap = true) (filled : gap ≠ "")
    (front back : String) :
    scan (front ++ gap ++ back) = scan front ++ (scan back).map (shift (front ++ gap).utf8ByteSize) ↔
      endsOpen front = false := by
  constructor
  · intro same
    refine Bool.eq_false_iff.2 fun unclosed => ?_
    obtain ⟨t, last, unclosed⟩ := (Option.any_eq_true _ _).1 unclosed
    obtain ⟨earlier, split⟩ := List.getLast?_eq_some_iff.1 last
    -- the token ends with the first command line and with the whole one
    obtain ⟨_, stop⟩ := ends_of_isOpen split unclosed
    rw [split, List.append_assoc, List.singleton_append] at same
    obtain ⟨_, again⟩ := ends_of_isOpen same unclosed
    have positive : gap.utf8ByteSize ≠ 0 := by simpa using filled
    simp only [stop, String.utf8ByteSize_append] at again
    omega
  · intro closed
    have ended := Text.ended_of_blanks blank (by simpa using filled) back.toList
    have later := (scans_scanFrom 0 back.toList).shift (front ++ gap).utf8ByteSize
    have place : 0 + (front ++ gap).utf8ByteSize = 0 + Text.width front.toList + Text.width gap.toList := by
      rw [String.utf8ByteSize_append, Text.width_toList, Text.width_toList, Nat.add_assoc]
    have between := scans_scanFrom (0 + Text.width front.toList) (gap.toList ++ back.toList)
    rw [scanFrom_of_blanks blank, ← place, ← later.eq_scanFrom] at between
    have whole := (scans_scanFrom 0 front.toList).append ended (isOpen_of_mem closed) between
    rw [scan, String.toList_append, String.toList_append, List.append_assoc]
    exact whole.eq_scanFrom.symm

/-- A name in angle brackets ends before the first command line does, and a redirect with its number ends it. -/
theorem scan_append_blanks_of_redirect :
    let front := "cat <in> 2>"
    let gap := " \t\u00a0"
    let back := "'a b' & wc"
    Text.isBlankText gap = true ∧ gap ≠ "" ∧ endsOpen front = false ∧
      scan (front ++ gap ++ back) = scan front ++ (scan back).map (shift (front ++ gap).utf8ByteSize) := by
  intro front gap back
  have closed : endsOpen front = false := by decide +kernel
  have blank : Text.isBlankText gap = true := by decide
  have filled : gap ≠ "" := by decide
  exact ⟨blank, filled, closed, (scan_append_blanks_iff blank filled front back).2 closed⟩

theorem mayMeet_of_ended (t : Token) {rest : List Char} (ended : rest.head?.all Text.isBlank = true) :
    t.mayMeet rest = true := by
  cases rest with
  | nil => rfl
  | cons c rest =>
    have blank : Text.isBlank c = true := ended
    rw [mayMeet, blank, Bool.true_or, Bool.true_or]

theorem Rereads.readsBefore_nil {ts : List Token} (rereads : Rereads ts) : ∀ t ∈ ts, t.ReadsBefore [] := by
  induction rereads with
  | done => exact fun _ member => absurd member List.not_mem_nil
  | token reads _ ih => exact List.forall_mem_cons.2 ⟨reads [] rfl fun _ => rfl, ih⟩

/-- Tokens that are read from their texts again are so with blanks between these. -/
theorem Rereads.scanFrom_intercalate {gap : List Char} {ts : List Token} (rereads : Rereads ts)
    (blank : gap.all Text.isBlank = true) (filled : gap ≠ []) (position : Nat) :
    (scanFrom position (gap.intercalate (ts.map (·.text.toList)))).map unplaced = ts.map unplaced := by
  induction rereads generalizing position with
  | done => rw [List.map_nil, List.intercalate_nil, scanFrom_nil]
  | @token t ts reads _ ih =>
    cases ts with
    | nil =>
      have alone := reads [] rfl (fun _ => rfl) position
      rw [List.append_nil, scanFrom_nil] at alone
      rw [List.map_singleton, List.intercalate_singleton, alone]
      rfl
    | cons u us =>
      let others := gap.intercalate ((u :: us).map (·.text.toList))
      have whole : gap.intercalate ((t :: u :: us).map (·.text.toList)) = t.text.toList ++ (gap ++ others) := by
        simp [others]
      have meets := t.mayMeet_of_ended (Text.ended_of_blanks blank filled others)
      have first := reads (gap ++ others) meets (fun none => absurd none (List.cons_ne_nil _ _)) position
      rw [scanFrom_of_blanks blank] at first
      rw [whole, first, List.map_cons, ih]
      rfl

/-- The tokens of a command line are read again, in their order, from their texts with single spaces between them,
and each one is read from its own text alone. -/
theorem scan_texts (command : String) :
    (scan (" ".intercalate ((scan command).map (·.text)))).map unplaced = (scan command).map unplaced ∧
      ∀ t ∈ scan command, scan t.text = [t.moved 0] := by
  have rereads : Rereads (scan command) := (scans_scanFrom 0 command.toList).rereads
  constructor
  · have blank : [' '].all Text.isBlank = true := rfl
    have joined := rereads.scanFrom_intercalate blank (List.cons_ne_nil _ _) 0
    rw [scan, String.toList_intercalate, List.map_map]
    exact joined
  · intro t member
    have alone := rereads.readsBefore_nil t member 0
    rwa [List.append_nil, scanFrom_nil] at alone

end Token

end ShellTemplate
