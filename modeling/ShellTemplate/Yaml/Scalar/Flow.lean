import ShellTemplate.Yaml.Cursor

namespace ShellTemplate.Yaml

/-- What stands between two words of a scalar: blanks, or breaks, around which blanks do not count. A
break that is escaped leaves no trace. -/
inductive Gap where
  | blanks (cs : List Char)
  | breaks (first? : Option Char) (more : List Char)

namespace Gap

def none : Gap :=
  .blanks []

def isNone : Gap → Bool
  | .blanks cs => cs.isEmpty
  | .breaks .. => false

def isBroken : Gap → Bool
  | .blanks _ => false
  | .breaks .. => true

/-- Adds a blank or a break. -/
def add (gap : Gap) (c : Char) : Gap :=
  match gap with
  | .blanks cs => if isBreak c then .breaks (some (breakText c)) [] else .blanks (cs ++ [c])
  | .breaks first? more => if isBreak c then .breaks first? (more ++ [breakText c]) else gap

/-- A single break is a space, and the first of several line feeds is dropped. -/
def text : Gap → List Char
  | .blanks cs => cs
  | .breaks (some '\n') [] => [' ']
  | .breaks (some '\n') more => more
  | .breaks first? more => first?.toList ++ more

end Gap

namespace Scalar

/-- The characters that end a plain scalar inside brackets. -/
def isFlowMark (c : Char) : Bool :=
  [',', '[', ']', '\x7b', '\x7d'].contains c

/-- A plain scalar, whether breaks follow it, and the place after it. Outside brackets (`flow` does not
hold) its lines stand at the column `indent` or further on. `gap` was passed already. -/
def readPlain (flow : Bool) (indent : Nat) (gap : Gap) (c : Cursor) :
    Option (List Char × Bool × Cursor) :=
  match _shape : c.rest with
  | [] => some ([], gap.isBroken, c)
  | ch :: rest =>
    if isGap ch then
      if ch == '\t' && gap.isBroken && c.column < indent then none
      else readPlain flow indent (gap.add ch) (c.skip 1)
    else if isBreak ch then readPlain flow indent (gap.add ch) c.newline
    else if !gap.isNone && (!flow && c.column < indent || ch == '#') then some ([], gap.isBroken, c)
    else if c.isAtMark then some ([], gap.isBroken, c)
    else if flow && ch == ':' && rest.head?.any fun d => isFlowMark d || d == '?' then none
    else if ch == ':' && isEdge rest || flow && isFlowMark ch then some ([], gap.isBroken, c)
    else do
      let (text, broken, after) ← readPlain flow indent .none (c.skip 1)
      return (gap.text ++ ch :: text, broken, after)
termination_by c.rest.length
decreasing_by
  all_goals have skipped := Cursor.length_skip c 1
  all_goals have passed := Cursor.length_newline c
  all_goals simp only [_shape, List.length_cons] at *
  all_goals omega

/-- What a letter after a backslash stands for. -/
def escapes : List (Char × Char) :=
  [('0', '\x00'), ('a', '\x07'), ('b', '\x08'), ('t', '\t'), ('\t', '\t'), ('n', '\n'), ('v', '\x0b'),
    ('f', '\x0c'), ('r', '\r'), ('e', '\x1b'), (' ', ' '), ('"', '"'), ('/', '/'), ('\\', '\\'),
    ('N', '\x85'), ('_', '\xa0'), ('L', '\u2028'), ('P', '\u2029')]

/-- How many hexadecimal digits follow a letter after a backslash. -/
def escapeWidths : List (Char × Nat) :=
  [('x', 2), ('u', 4), ('U', 8)]

def hexDigit? (c : Char) : Option Nat :=
  if c.isDigit then some (c.toNat - 48)
  else
    let lower := c.toLower
    if 'a' ≤ lower ∧ lower ≤ 'f' then some (lower.toNat - 87) else none

/-- The character that stands after a backslash in another form, and the number of characters of that
form. -/
def escaped? : List Char → Option (Char × Nat)
  | [] => none
  | c :: rest =>
    match escapes.lookup c with
    | some meant => some (meant, 1)
    | none => do
      let width ← escapeWidths.lookup c
      let digits ← (rest.take width).mapM hexDigit?
      let code := digits.foldl (fun code digit => code * 16 + digit) 0
      if digits.length = width ∧ code.isValidChar then some (Char.ofNat code, width + 1) else none

/-- The text up to the closing quote, and the place after it. -/
def readQuoted (quote : Char) (gap : Gap) (c : Cursor) : Option (List Char × Cursor) :=
  match _shape : c.rest with
  | [] => none
  | ch :: rest =>
    if isGap ch then readQuoted quote (gap.add ch) (c.skip 1)
    else if isBreak ch then readQuoted quote (gap.add ch) c.newline
    else if c.isAtMark then none
    else if ch == quote then
      if quote == '\'' && rest.head? == some '\'' then do
        let (text, after) ← readQuoted quote .none (c.skip 2)
        return (gap.text ++ ch :: text, after)
      else some (gap.text, c.skip 1)
    else if quote == '"' && ch == '\\' then
      if rest.head?.any isBreak then do
        let (text, after) ← readQuoted quote (.breaks none []) (c.skip 1).newline
        return (gap.text ++ text, after)
      else do
        let (meant, width) ← escaped? rest
        let (text, after) ← readQuoted quote .none (c.skip (width + 1))
        return (gap.text ++ meant :: text, after)
    else do
      let (text, after) ← readQuoted quote .none (c.skip 1)
      return (gap.text ++ ch :: text, after)
termination_by c.rest.length
decreasing_by
  all_goals have skipped := Cursor.length_skip c
  all_goals have passed := Cursor.length_newline c
  all_goals have both := Cursor.length_newline (c.skip 1)
  all_goals simp only [Cursor.length_skip, _shape, List.length_cons] at *
  all_goals omega

end Scalar

end ShellTemplate.Yaml
