namespace ShellTemplate.Yaml

/-- The characters that a YAML stream may hold. -/
def isAllowed (c : Char) : Bool :=
  let n := c.toNat
  n == 0x9 || n == 0xA || n == 0xD || (0x20 ≤ n && n ≤ 0x7E) || n == 0x85 ||
    (0xA0 ≤ n && n ≤ 0xFFFD) || 0x10000 ≤ n

def isGap (c : Char) : Bool :=
  c == ' ' || c == '\t'

def isBreak (c : Char) : Bool :=
  c == '\n' || c == '\r' || c == '\x85' || c == '\u2028' || c == '\u2029'

/-- What a break is in the text of a scalar: a line feed, but the two separators of Unicode stay. -/
def breakText (c : Char) : Char :=
  if c == '\u2028' || c == '\u2029' then c else '\n'

/-- A gap, a break or the end comes next. -/
def isEdge (cs : List Char) : Bool :=
  cs.head?.all fun c => isGap c || isBreak c

/-- Three marks at the beginning of the characters, and nothing against them. -/
def startsMark (mark : Char) : List Char → Bool
  | a :: b :: c :: rest => a == mark && b == mark && c == mark && isEdge rest
  | _ => false

/-- A place in a text: what follows, and the numbers of the line and column. -/
structure Cursor where
  rest : List Char
  line : Nat := 0
  column : Nat := 0

namespace Cursor

/-- Goes on by characters of one line. -/
def skip (c : Cursor) (count : Nat) : Cursor :=
  { c with rest := c.rest.drop count, column := c.column + count }

/-- Goes on while the property holds, which no break has. -/
def skipWhile (c : Cursor) (p : Char → Bool) : Cursor :=
  { c with rest := c.rest.dropWhile p, column := c.column + (c.rest.takeWhile p).length }

/-- Passes a break. A carriage return with a line feed after it is one break. -/
def newline (c : Cursor) : Cursor where
  rest :=
    match c.rest with
    | '\r' :: '\n' :: rest => rest
    | rest => rest.drop 1
  line := c.line + 1

def skipLine (c : Cursor) : Cursor :=
  c.skipWhile fun ch => !isBreak ch

/-- Passes a comment, which goes on to the end of the line. -/
def skipComment (c : Cursor) : Cursor :=
  if c.rest.head? == some '#' then c.skipLine else c

/-- Passes a byte order mark at the beginning of a line. -/
def skipMark (c : Cursor) : Cursor :=
  if c.column == 0 && c.rest.head? == some '\ufeff' then c.skip 1 else c

def isAtBreak (c : Cursor) : Bool :=
  c.rest.head?.any isBreak

/-- Passes the rest of a line, which can only be a comment. -/
def finishLine? (c : Cursor) : Option Cursor :=
  let c := (c.skipWhile isGap).skipComment
  if c.isAtBreak then some c.newline
  else if c.rest.isEmpty then some c
  else none

/-- The mark of a document begins here. -/
def isAtMark (c : Cursor) : Bool :=
  c.column == 0 && (startsMark '-' c.rest || startsMark '.' c.rest)

theorem length_skip (c : Cursor) (count : Nat) :
    (c.skip count).rest.length = c.rest.length - count := by
  simp [skip]

theorem length_skipWhile (c : Cursor) (p : Char → Bool) :
    (c.skipWhile p).rest.length ≤ c.rest.length :=
  (List.dropWhile_suffix p).length_le

theorem length_skipComment (c : Cursor) : c.skipComment.rest.length ≤ c.rest.length := by
  unfold skipComment
  split
  · exact length_skipWhile c _
  · exact Nat.le_refl _

theorem length_skipMark (c : Cursor) : c.skipMark.rest.length ≤ c.rest.length := by
  unfold skipMark
  split
  · rw [length_skip]
    omega
  · exact Nat.le_refl _

theorem length_newline (c : Cursor) : c.newline.rest.length ≤ c.rest.length - 1 := by
  simp only [newline]
  split
  · rename_i shape
    simp [shape]
  · simp

end Cursor

end ShellTemplate.Yaml
