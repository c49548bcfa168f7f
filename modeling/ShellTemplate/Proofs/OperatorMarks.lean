import ShellTemplate.Token.Lexer

namespace ShellTemplate.Operator

/-- The operators of one character. -/
def ofMark? (c : Char) : Option Operator :=
  if c = '|' then some .pipe
  else if c = '&' then some .background
  else if c = ';' then some .sequence
  else if c = '>' then some .redirectOut
  else if c = '<' then some .redirectIn
  else none

/-- The operators of two characters. -/
def ofMarks? (c d : Char) : Option Operator :=
  if c = '|' then if d = '&' then some .pipeAll else if d = '|' then some .or else none
  else if c = '&' then if d = '&' then some .and else if d = '>' then some .redirectAll else none
  else if c = '>' then if d = '>' then some .redirectAppend else if d = '&' then some .duplicateOut else none
  else if c = '<' then if d = '<' then some .hereDocument else if d = '&' then some .duplicateIn else none
  else none

/-- The characters that begin an operator. -/
def isMark (c : Char) : Bool :=
  (ofMark? c).isSome

theorem isMark_iff {c : Char} : isMark c = true ↔ c = '|' ∨ c = '&' ∨ c = ';' ∨ c = '>' ∨ c = '<' := by
  simp only [isMark, ofMark?]
  grind

theorem not_blank_of_isMark {c : Char} (mark : isMark c = true) : Text.isBlank c = false := by
  rcases isMark_iff.1 mark with rfl | rfl | rfl | rfl | rfl <;> decide

theorem ofSymbol?_eq_some_iff {cs : List Char} {op : Operator} :
    ofSymbol? (String.ofList cs) = some op ↔ cs = op.symbol.toList := by
  constructor
  · intro found
    rw [symbol_of_ofSymbol? found, String.toList_ofList]
  · rintro rfl
    rw [String.ofList_toList, ofSymbol?_symbol]

theorem ofSymbol?_one (c : Char) : ofSymbol? (String.ofList [c]) = ofMark? c := by
  ext op
  rw [ofSymbol?_eq_some_iff]
  cases op <;> simp only [symbol, ofMark?] <;> grind

theorem ofSymbol?_two (c d : Char) : ofSymbol? (String.ofList [c, d]) = ofMarks? c d := by
  ext op
  rw [ofSymbol?_eq_some_iff]
  cases op <;> simp only [symbol, ofMarks?] <;> grind

theorem leading?_one (c : Char) : leading? [c] = ofMark? c :=
  ofSymbol?_one c

theorem leading?_two (c d : Char) (rest : List Char) :
    leading? (c :: d :: rest) = (ofMarks? c d).or (ofMark? c) := by
  simp only [leading?, ofSymbol?_one, ofSymbol?_two]
  cases ofMarks? c d <;> rfl

/-- Whether an operator begins is decided by the first character alone. -/
theorem leading?_isSome (c : Char) (rest : List Char) : (leading? (c :: rest)).isSome = isMark c := by
  cases rest with
  | nil => rw [leading?_one, isMark]
  | cons d rest =>
    rw [leading?_two, isMark]
    simp only [ofMarks?, ofMark?]
    grind

theorem leading?_eq_none_iff {c : Char} {rest : List Char} :
    leading? (c :: rest) = none ↔ isMark c = false := by
  rw [← leading?_isSome c rest, Option.isSome_eq_false_iff, Option.isNone_iff_eq_none]

theorem isMark_of_leading? {c : Char} {rest : List Char} {op : Operator}
    (found : leading? (c :: rest) = some op) : isMark c = true := by
  rw [← leading?_isSome c rest, found]
  rfl

theorem skip_append (op : Operator) (rest : List Char) : op.skip (op.symbol.toList ++ rest) = rest := by
  rw [skip, ← String.length_toList, List.drop_left]

theorem skip_of_mark {c : Char} {op : Operator} (mark : ofMark? c = some op) (rest : List Char) :
    op.skip (c :: rest) = rest := by
  have symbol : [c] = op.symbol.toList := ofSymbol?_eq_some_iff.1 ((ofSymbol?_one c).trans mark)
  have whole := op.skip_append rest
  rwa [← symbol] at whole

theorem skip_of_marks {c d : Char} {op : Operator} (marks : ofMarks? c d = some op) (rest : List Char) :
    op.skip (c :: d :: rest) = rest := by
  have symbol : [c, d] = op.symbol.toList := ofSymbol?_eq_some_iff.1 ((ofSymbol?_two c d).trans marks)
  have whole := op.skip_append rest
  rwa [← symbol] at whole

/-- An operator that was found is the symbol that the characters begin with. -/
theorem symbol_append_skip {cs : List Char} {op : Operator} (found : leading? cs = some op) :
    op.symbol.toList ++ op.skip cs = cs := by
  have prefixed : ∀ front back, ofSymbol? (String.ofList front) = some op → cs = front ++ back →
      op.symbol.toList ++ op.skip cs = cs := by
    intro front back known split
    cases ofSymbol?_eq_some_iff.1 known
    rw [split, skip_append]
  match cs with
  | [] => simp [leading?] at found
  | [c] => exact prefixed [c] [] found rfl
  | c :: d :: rest =>
    rw [leading?_two, Option.or_eq_some_iff, ← ofSymbol?_one, ← ofSymbol?_two] at found
    rcases found with two | ⟨_, one⟩
    · exact prefixed [c, d] rest two rfl
    · exact prefixed [c] (d :: rest) one rfl

/-- The longer operator that a character makes of one. -/
def grow? (op : Operator) (c : Char) : Option Operator :=
  match op.symbol.toList with
  | [mark] => ofMarks? mark c
  | _ => none

theorem grow?_of_mark {c d : Char} {op : Operator} (mark : ofMark? c = some op) : op.grow? d = ofMarks? c d := by
  have symbol : [c] = op.symbol.toList := ofSymbol?_eq_some_iff.1 ((ofSymbol?_one c).trans mark)
  rw [grow?, ← symbol]

/-- Whether the first character behind an operator makes a longer one of it. -/
def growsBy (op : Operator) : List Char → Bool
  | [] => false
  | d :: _ => (op.grow? d).isSome

theorem growsBy_eq_false {op : Operator} {c : Char} {rest : List Char}
    (other : c ≠ '|' ∧ c ≠ '&' ∧ c ≠ '>' ∧ c ≠ '<') : op.growsBy (c :: rest) = false := by
  obtain ⟨notPipe, notAnd, notOut, notIn⟩ := other
  cases op <;> simp [growsBy, grow?, symbol, ofMarks?, notPipe, notAnd, notOut, notIn]

theorem leading?_symbol_append {op : Operator} {rest : List Char} (apart : op.growsBy rest = false) :
    leading? (op.symbol.toList ++ rest) = some op := by
  cases rest with
  | nil => cases op <;> decide
  | cons d rest =>
    cases op <;>
      simp_all only [symbol, growsBy, grow?, String.reduceToList, Option.isSome_eq_false_iff, Option.isNone_iff_eq_none,
        List.cons_append, List.nil_append, leading?_two] <;> rfl

end ShellTemplate.Operator
