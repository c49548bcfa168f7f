import ShellTemplate.Yaml.Scalar.Block
import ShellTemplate.Yaml.Tag

namespace ShellTemplate.Yaml

/-- The beginning of a token that turns out to be a key if a colon follows it. -/
structure PendingKey where
  /-- The number of tokens before it. -/
  index : Nat
  place : Cursor
  /-- Only a key can stand here. -/
  required : Bool

/-- What is known in the middle of a stream. -/
structure Lexer where
  cursor : Cursor
  tokens : Array Token := #[]
  /-- The columns of the open block collections, the innermost one first. -/
  columns : List Nat := []
  key? : Option PendingKey := none
  /-- The pending keys around each open bracket. -/
  outerKeys : List (Option PendingKey) := []
  keyAllowed : Bool := true

namespace Lexer

/-- Whether the place is inside brackets, where indentation does not count. -/
def inBrackets (l : Lexer) : Bool :=
  !l.outerKeys.isEmpty

def push (l : Lexer) (t : Token) : Lexer :=
  { l with tokens := l.tokens.push t }

/-- The column right of the innermost block collection, zero outside of all. -/
def inner (l : Lexer) : Nat :=
  match l.columns with
  | [] => 0
  | column :: _ => column + 1

/-- Gives up a pending key, which must not be required. -/
def dropKey? (l : Lexer) : Option Lexer :=
  if l.key?.any (·.required) then none else some { l with key? := none }

/-- Remembers that a key may begin here. -/
def saveKey? (l : Lexer) : Option Lexer :=
  if l.keyAllowed then do
    let l ← l.dropKey?
    let required := !l.inBrackets && l.columns.head? == some l.cursor.column
    return { l with key? := some ⟨l.tokens.size, l.cursor, required⟩ }
  else some l

/-- A key and its colon stand in one line and at most 1024 characters apart. -/
def isStale (place : Cursor) (key : PendingKey) : Bool :=
  key.place.line < place.line || key.place.column + 1024 < place.column

/-- Gives up the keys that are too far away. -/
def dropStaleKeys? (l : Lexer) : Option Lexer :=
  let stale (key? : Option PendingKey) : Bool := key?.any (isStale l.cursor)
  if (l.key? :: l.outerKeys).any fun key? => stale key? && key?.any (·.required) then none
  else
    let fresh (key? : Option PendingKey) := if stale key? then none else key?
    some { l with key? := fresh l.key?, outerKeys := l.outerKeys.map fresh }

/-- Closes the first block collections. -/
def close (l : Lexer) (count : Nat) : Lexer :=
  if l.inBrackets then l
  else
    { l with
      columns := l.columns.drop count
      tokens := l.tokens ++ Array.replicate (l.columns.take count).length Token.blockEnd }

/-- Closes the block collections that stand right of the place. -/
def closeRight (l : Lexer) : Lexer :=
  l.close (l.columns.takeWhile (l.cursor.column < ·)).length

/-- Opens a block collection at a column unless one is open there. Its token goes before others if it
began with a key that was only pending. -/
def openAt (l : Lexer) (column index : Nat) (t : Token) : Lexer :=
  if !l.inBrackets && l.columns.head?.all (· < column) then
    { l with columns := column :: l.columns, tokens := l.tokens.insertIdxIfInBounds index t }
  else l

/-- Passes gaps, comments and breaks. A tab does not indent what may be a key. -/
def skipBlanks (l : Lexer) : Lexer :=
  let tabs := l.inBrackets || !l.keyAllowed
  let stop := (l.cursor.skipMark.skipWhile fun c => c == ' ' || tabs && c == '\t').skipComment
  match _shape : stop.rest with
  | [] => { l with cursor := stop }
  | c :: _ =>
    if isBreak c then
      skipBlanks { l with cursor := stop.newline, keyAllowed := l.keyAllowed || !l.inBrackets }
    else { l with cursor := stop }
termination_by l.cursor.rest.length
decreasing_by
  have begun := Cursor.length_skipMark l.cursor
  have skipped := Cursor.length_skipWhile l.cursor.skipMark fun c => c == ' ' || tabs && c == '\t'
  have commented := Cursor.length_skipComment
    (l.cursor.skipMark.skipWhile fun c => c == ' ' || tabs && c == '\t')
  have ended := Cursor.length_newline stop
  have shape := congrArg List.length _shape
  simp only [stop, tabs, List.length_cons] at *
  omega

/-- Adds a token of the given width. -/
def take (l : Lexer) (width : Nat) (t : Token) : Lexer :=
  { l with cursor := l.cursor.skip width, tokens := l.tokens.push t }

/-- Adds a token that the characters at the place make up, up to those that follow. -/
def takeUntil (l : Lexer) (t : Token) (after : List Char) : Lexer :=
  l.take (l.cursor.rest.length - after.length) t

/-- Outside of all collections. -/
def topLevel? (l : Lexer) : Option Lexer := do
  let l ← (l.close l.columns.length).dropKey?
  return { l with keyAllowed := false }

def directive? (l : Lexer) : Option Lexer := do
  let l ← l.topLevel?
  let (t, after) ← Tag.directive? (l.cursor.rest.drop 1)
  let l := l.takeUntil t after
  return { l with cursor := ← l.cursor.finishLine? }

def document? (l : Lexer) (t : Token) : Option Lexer := do
  let l ← l.topLevel?
  return l.take 3 t

def openBracket? (l : Lexer) (t : Token) : Option Lexer := do
  let l ← l.saveKey?
  return { l.take 1 t with key? := none, outerKeys := l.key? :: l.outerKeys, keyAllowed := true }

def closeBracket? (l : Lexer) (t : Token) : Option Lexer := do
  let l ← l.dropKey?
  return { l.take 1 t with
    key? := l.outerKeys.head?.join
    outerKeys := l.outerKeys.drop 1
    keyAllowed := false }

def flowEntry? (l : Lexer) : Option Lexer := do
  let l ← l.dropKey?
  return { l.take 1 .flowEntry with keyAllowed := true }

/-- Outside brackets a mark that opens a collection stands only where a key may stand. -/
def openHere? (l : Lexer) (t : Token) : Option Lexer :=
  if l.inBrackets then some l
  else if l.keyAllowed then some (l.openAt l.cursor.column l.tokens.size t)
  else none

def blockEntry? (l : Lexer) : Option Lexer := do
  let l ← (← l.openHere? .blockSequence).dropKey?
  return { l.take 1 .blockEntry with keyAllowed := true }

def questionMark? (l : Lexer) : Option Lexer := do
  let l ← (← l.openHere? .blockMapping).dropKey?
  return { l.take 1 .key with keyAllowed := !l.inBrackets }

/-- A colon makes a key of a pending one, or stands after a question mark. -/
def colon? (l : Lexer) : Option Lexer :=
  match l.key? with
  | some key =>
    let l := { l with tokens := l.tokens.insertIdxIfInBounds key.index .key }
    let l := l.openAt key.place.column key.index .blockMapping
    some { l.take 1 .value with key? := none, keyAllowed := false }
  | none => do
    let l ← l.openHere? .blockMapping
    return { l.take 1 .value with keyAllowed := !l.inBrackets }

/-- After the name of an anchor comes an edge or a mark that no name holds. -/
def endsName (cs : List Char) : Bool :=
  isEdge cs || cs.head?.any fun c => ['?', ':', ',', ']', '\x7d', '%', '@', '\x60'].contains c

def anchor? (l : Lexer) (make : String → Token) : Option Lexer := do
  let l ← l.saveKey?
  let name := (l.cursor.rest.drop 1).takeWhile Text.isNameChar
  if name.isEmpty || !endsName (l.cursor.rest.drop (name.length + 1)) then none
  else return { l.take (name.length + 1) (make (String.ofList name)) with keyAllowed := false }

def tag? (l : Lexer) : Option Lexer := do
  let l ← l.saveKey?
  let (t, after) ← Tag.read? l.cursor.rest
  if isEdge after || l.inBrackets && after.head? == some ',' then
    return { l.takeUntil t after with keyAllowed := false }
  else none

def block? (l : Lexer) (style : ScalarStyle) : Option Lexer := do
  let l ← l.dropKey?
  let (text, after) ← Scalar.readBlock (style == .literal) l.inner (l.cursor.skip 1)
  return { l.push (.scalar style (String.ofList text)) with cursor := after, keyAllowed := true }

def quoted? (l : Lexer) (quote : Char) : Option Lexer := do
  let l ← l.saveKey?
  let (text, after) ← Scalar.readQuoted quote .none (l.cursor.skip 1)
  return { l.push (.scalar .quoted (String.ofList text)) with cursor := after, keyAllowed := false }

/-- After a plain scalar with breaks behind it a key may stand. -/
def plain? (l : Lexer) : Option Lexer := do
  let l ← l.saveKey?
  let (text, broken, after) ← Scalar.readPlain l.inBrackets l.inner .none l.cursor
  return { l.push (.scalar .plain (String.ofList text)) with cursor := after, keyAllowed := broken }

/-- The marks that no plain scalar begins with. -/
def isMark (c : Char) : Bool :=
  ['-', '?', ':', ',', '[', ']', '\x7b', '\x7d', '#', '&', '*', '!', '|', '>', '\'', '"', '%', '@',
    '\x60'].contains c

/-- Marks that are part of a plain scalar if something stands against them. -/
def startsPlain (l : Lexer) (c : Char) (rest : List Char) : Bool :=
  !(isGap c || isBreak c || isMark c) || c == '-' && !rest.head?.any isGap ||
    !l.inBrackets && (c == '?' || c == ':') && !isEdge rest

/-- Reads the token that begins with `c`. -/
def next? (l : Lexer) (c : Char) (rest : List Char) : Option Lexer :=
  let first := l.cursor.column == 0
  if first && c == '%' then l.directive?
  else if first && startsMark '-' (c :: rest) then l.document? .documentStart
  else if first && startsMark '.' (c :: rest) then l.document? .documentEnd
  else if c == '[' then l.openBracket? .flowSequence
  else if c == '\x7b' then l.openBracket? .flowMapping
  else if c == ']' then l.closeBracket? .flowSequenceEnd
  else if c == '\x7d' then l.closeBracket? .flowMappingEnd
  else if c == ',' then l.flowEntry?
  else if c == '-' && isEdge rest then l.blockEntry?
  else if c == '?' && (l.inBrackets || isEdge rest) then l.questionMark?
  else if c == ':' && (l.inBrackets || isEdge rest) then l.colon?
  else if c == '*' then l.anchor? .alias
  else if c == '&' then l.anchor? .anchor
  else if c == '!' then l.tag?
  else if c == '|' && !l.inBrackets then l.block? .literal
  else if c == '>' && !l.inBrackets then l.block? .folded
  else if c == '\'' || c == '"' then l.quoted? c
  else if l.startsPlain c rest then l.plain?
  else none

/-- The tokens up to the end, in so many steps at most. Each step passes a character. -/
def run? (l : Lexer) : Nat → Option (List Token)
  | 0 => none
  | steps + 1 => do
    let l ← l.skipBlanks.dropStaleKeys?
    let l := l.closeRight
    match l.cursor.rest with
    | [] =>
      let l ← (l.close l.columns.length).dropKey?
      return l.tokens.toList
    | c :: rest => (← l.next? c rest).run? steps

end Lexer

/-- The tokens of a YAML stream; none if it holds what no token begins with or a character that no stream
may hold. -/
def Token.ofText? (text : String) : Option (List Token) :=
  let cs := text.toList
  if cs.all isAllowed then ({ cursor := { rest := cs } } : Lexer).run? (cs.length + 1) else none

end ShellTemplate.Yaml
