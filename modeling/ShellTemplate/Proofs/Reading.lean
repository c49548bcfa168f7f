import ShellTemplate.Proofs.OperatorMarks

namespace ShellTemplate

/-- Where a reader of a command line stands that decides about each character at once. Behind a `<` it
must wait: a name in angle brackets is an operator, a word and an operator unless a blank or the end
follows. -/
inductive Reading where
  | between
  | word
  | brace
  | escape
  | single
  | double
  | doubleEscape
  /-- Inside a braced run; the last character may have been a closing brace. -/
  | braced (afterBrace : Bool)
  /-- Behind an operator that the next character may make longer. -/
  | pending (op : Operator)
  | angle
  | name
  /-- Behind a name in angle brackets and as many dots. -/
  | dots (count : Nat)
deriving DecidableEq, Repr

namespace Reading

/-- The next state, with operators that were found before. -/
def emit (found : List Operator) (next : List Operator × Reading) : List Operator × Reading :=
  (found ++ next.1, next.2)

def fromWord (c : Char) : List Operator × Reading :=
  if Text.isBlank c then ([], between)
  else
    match Operator.ofMark? c with
    | some op => ([], pending op)
    | none =>
      if c = '\\' then ([], escape)
      else if c = '\'' then ([], single)
      else if c = '"' then ([], double)
      else if c = '\x7b' then ([], brace)
      else ([], word)

def fromBetween (c : Char) : List Operator × Reading :=
  if c = '<' then ([], angle) else fromWord c

def fromPending (op : Operator) (c : Char) : List Operator × Reading :=
  match op.grow? c with
  | some longer => ([longer], between)
  | none => emit [op] (fromBetween c)

/-- The operators that are certain with the next character, and where the reader stands then. -/
def step : Reading → Char → List Operator × Reading
  | between, c => fromBetween c
  | word, c => fromWord c
  | brace, c => if c = '\x7b' then ([], braced false) else fromWord c
  | escape, _ => ([], word)
  | single, c => ([], if c = '\'' then word else single)
  | double, c => ([], if c = '"' then word else if c = '\\' then doubleEscape else double)
  | doubleEscape, _ => ([], double)
  | braced afterBrace, c =>
    ([], if c = '\x7d' then if afterBrace then word else braced true else braced false)
  | pending op, c => fromPending op c
  | angle, c => if c.isAlpha then ([], name) else fromPending .redirectIn c
  | name, c =>
    if Text.isNameChar c then ([], name)
    else if c = '>' then ([], dots 0)
    else emit [.redirectIn] (fromWord c)
  | dots count, c =>
    if c = '.' ∧ count < 3 then ([], dots (count + 1))
    else if Text.isBlank c ∧ (count = 0 ∨ count = 3) then ([], between)
    else if count = 0 then emit [.redirectIn] (fromPending .redirectOut c)
    else emit [.redirectIn, .redirectOut] (fromWord c)

/-- The operators that are certain at the end. -/
def finish : Reading → List Operator
  | pending op => [op]
  | angle | name => [.redirectIn]
  | dots count => if count = 0 ∨ count = 3 then [] else [.redirectIn, .redirectOut]
  | _ => []

/-- The operators that are found in the characters, and where the reader stands behind them. -/
def read (r : Reading) : List Char → List Operator × Reading
  | [] => ([], r)
  | c :: cs => emit (r.step c).1 ((r.step c).2.read cs)

/-- All operators of the characters. -/
def run (r : Reading) (cs : List Char) : List Operator :=
  (r.read cs).1 ++ (r.read cs).2.finish

@[simp] theorem read_nil (r : Reading) : r.read [] = ([], r) := rfl

@[simp] theorem run_nil (r : Reading) : r.run [] = r.finish := rfl

theorem read_cons (r : Reading) (c : Char) (cs : List Char) :
    r.read (c :: cs) = emit (r.step c).1 ((r.step c).2.read cs) := rfl

theorem run_cons (r : Reading) (c : Char) (cs : List Char) : r.run (c :: cs) = (r.step c).1 ++ (r.step c).2.run cs := by
  rw [run, read_cons, emit, run, List.append_assoc]

theorem read_append (r : Reading) (cs ds : List Char) :
    r.read (cs ++ ds) = emit (r.read cs).1 ((r.read cs).2.read ds) := by
  induction cs generalizing r with
  | nil => rfl
  | cons c cs ih => rw [List.cons_append, read_cons, read_cons, ih, emit, emit, emit, emit, List.append_assoc]

theorem run_append (r : Reading) (cs ds : List Char) : r.run (cs ++ ds) = (r.read cs).1 ++ (r.read cs).2.run ds := by
  rw [run, read_append, emit, run, List.append_assoc]

theorem run_of_step {r next : Reading} {c : Char} {cs : List Char} {found : List Operator}
    (step : r.step c = (found, next)) : r.run (c :: cs) = found ++ next.run cs := by
  rw [run_cons, step]

/-- What a character does in a word when it has no meaning of its own there. -/
theorem fromWord_of_plain {c : Char} (blank : Text.isBlank c = false) (mark : Operator.isMark c = false)
    (plain : c ∉ ['\\', '\'', '"', '\x7b']) : fromWord c = ([], word) := by
  rw [Operator.isMark, Option.isSome_eq_false_iff, Option.isNone_iff_eq_none] at mark
  simp only [List.mem_cons, List.not_mem_nil, or_false, not_or] at plain
  obtain ⟨notBackslash, notSingle, notDouble, notBrace⟩ := plain
  simp [fromWord, blank, mark, notBackslash, notSingle, notDouble, notBrace]

theorem fromWord_of_blank {c : Char} (blank : Text.isBlank c = true) : fromWord c = ([], between) := by
  rw [fromWord, if_pos blank]

theorem fromWord_of_mark {c : Char} {op : Operator} (mark : Operator.ofMark? c = some op) :
    fromWord c = ([], pending op) := by
  have isMark : Operator.isMark c = true := by rw [Operator.isMark, mark]; rfl
  simp [fromWord, Operator.not_blank_of_isMark isMark, mark]

theorem fromBetween_of_ne {c : Char} (other : c ≠ '<') : fromBetween c = fromWord c :=
  if_neg other

end Reading

end ShellTemplate
