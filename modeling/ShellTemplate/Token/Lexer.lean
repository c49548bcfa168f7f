import ShellTemplate.Placeholder
import ShellTemplate.Token
import ShellTemplate.Token.Segment

namespace ShellTemplate

/-- Whether a word stands for a parameter, and whether the parameter is required. Of words between
double braces a well-formed optional or defaulted placeholder is optional; a name in angle brackets is
required, one in square brackets optional. -/
def Word.parameterShape? (core : List Char) : Option Bool :=
  if ['\x7b', '\x7b'].isPrefixOf core && ['\x7d', '\x7d'].isSuffixOf core && 4 < core.length then
    some ((Placeholder.ofText? (String.ofList core)).all (·.isRequired))
  else if 2 < core.length && core.head? == some '<' && core.getLast? == some '>' then some true
  else if 2 < core.length && core.head? == some '[' && core.getLast? == some ']' then some false
  else none

/-- The first and the last character are the same kind of quote. -/
def Word.isEnclosed (shape : List Char) : Bool :=
  1 < shape.length && (shape.head? == some '"' || shape.head? == some '\'') &&
    shape.head? == shape.getLast?

def Word.isPath (shape : List Char) : Bool :=
  shape.any fun c => c == '/' || c == '\\' || c == '.'

/-- The kind and flags of a word, decided by its shape: an option begins with a hyphen, then come
parameters, words in quotes, paths, and all others are arguments. -/
def Word.classify (shape : List Char) (unterminated : Bool) : TokenKind × TokenFlags :=
  let flags : TokenFlags :=
    { isPlaceholder := !(Placeholder.scanFrom 0 shape).isEmpty, unterminatedQuote := unterminated }
  if 1 < shape.length && shape.head? == some '-' then
    let isLong := ['-', '-'].isPrefixOf shape
    (.option, { flags with isLong, isShort := !isLong, hasValue := shape.contains '=' })
  else
    let isVariadic := ['.', '.', '.'].isSuffixOf shape
    let core := if isVariadic then shape.take (shape.length - 3) else shape
    match parameterShape? core with
    | some isRequired =>
      (.parameter, { flags with isRequired, isOptional := !isRequired, isVariadic })
    | none =>
      if !unterminated && isEnclosed shape then (.quoted, flags)
      else if isPath shape then (.path, flags)
      else (.argument, flags)

/-- The token of a word that begins at the given byte. -/
def Word.token (position : Nat) (w : Word) : Token :=
  let (kind, flags) := classify w.shape w.isUnterminated
  { kind, flags, text := String.ofList w.source, value := String.ofList w.value,
    span := ⟨position, position + Text.width w.source⟩ }

/-- The token of an operator with the descriptor number that stands against it. -/
def Operator.token (position : Nat) (descriptor : List Char) (op : Operator) : Token :=
  let text := descriptor ++ op.symbol.toList
  { kind := .separator, text := String.ofList text, value := op.symbol,
    span := ⟨position, position + Text.width text⟩ }

/-- What follows an operator at the beginning of the characters. -/
def Operator.skip (op : Operator) (cs : List Char) : List Char :=
  cs.drop op.symbol.length

theorem Operator.length_skip (op : Operator) (cs : List Char) : (op.skip cs).length ≤ cs.length - 1 := by
  have positive : 0 < op.symbol.length := by cases op <;> decide
  simp only [Operator.skip, List.length_drop]
  omega

namespace Token

/-- The tokens of the characters that begin at byte `position`. A word ends before an operator, and the
operator takes a word of digits before it as its descriptor if it redirects. -/
def scanFrom (position : Nat) (cs : List Char) : List Token :=
  match cs with
  | [] => []
  | c :: rest =>
    if Text.isBlank c then scanFrom (position + c.utf8Size) rest
    else
      match _angled : Word.angled? (c :: rest) with
      | some (word, after) => word.token position :: scanFrom (position + Text.width word.source) after
      | none =>
        match Operator.leading? (c :: rest) with
        | some op =>
          let t := op.token position []
          t :: scanFrom t.span.stop (op.skip (c :: rest))
        | none =>
          let first := Segment.read c rest
          let more := Word.read first.2
          let word := first.1 :: more.1
          let middle := position + Text.width (Word.source word)
          match Operator.leading? more.2 with
          | some op =>
            if op.isRedirect && Word.isDescriptor word then
              let t := op.token position (Word.source word)
              t :: scanFrom t.span.stop (op.skip more.2)
            else
              let t := op.token middle []
              Word.token position word :: t :: scanFrom t.span.stop (op.skip more.2)
          | none => Word.token position word :: scanFrom middle more.2
termination_by cs.length
decreasing_by
  all_goals try have angledBound := Word.length_angled? _angled
  all_goals try have skipBound := Operator.length_skip op (c :: rest)
  all_goals try have tailBound := Operator.length_skip op (Word.read (Segment.read c rest).2).2
  all_goals have wordBound := Word.length_read (Segment.read c rest).2
  all_goals have firstBound := Segment.length_read c rest
  all_goals simp only [List.length_cons] at *
  all_goals omega

/-- The tokens of a command line. -/
def scan (command : String) : List Token :=
  scanFrom 0 command.toList

end Token

end ShellTemplate
