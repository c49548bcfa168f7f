import ShellTemplate.Text.Names
import ShellTemplate.Yaml.Scalar.Flow
import ShellTemplate.Yaml.Token

namespace ShellTemplate.Yaml.Tag

/-- The characters of a tag; commas and square brackets only between angle brackets. -/
def isTagChar (enclosed : Bool) (c : Char) : Bool :=
  Text.isNameChar c ||
    [';', '/', '?', ':', '@', '&', '=', '+', '$', '.', '!', '~', '*', '\'', '(', ')'].contains c ||
    (enclosed && [',', '[', ']'].contains c)

/-- How many bytes follow the first one of a character, if a character can begin with it. -/
def following? (byte : Nat) : Option Nat :=
  if byte < 0x80 then some 0
  else if byte / 32 = 6 then some 1
  else if byte / 16 = 14 then some 2
  else if byte / 8 = 30 then some 3
  else none

/-- The characters of a tag and what follows them. A percent sign and two hexadecimal digits are a byte,
of which `missing` more are needed to make up a character. -/
def readChars (enclosed : Bool) (missing : Nat) : List Char → Option (List Char × List Char)
  | '%' :: a :: b :: rest => do
    let byte := (← Scalar.hexDigit? a) * 16 + (← Scalar.hexDigit? b)
    let missing ← if missing = 0 then following? byte
      else if byte / 64 = 2 then some (missing - 1) else none
    let (text, rest) ← readChars enclosed missing rest
    return (Char.ofNat byte :: text, rest)
  | c :: rest =>
    if missing ≠ 0 || c == '%' then none
    else if isTagChar enclosed c then
      (readChars enclosed missing rest).map fun (text, rest) => (c :: text, rest)
    else some ([], c :: rest)
  | [] => if missing = 0 then some ([], []) else none

/-- The text of a tag ends at a zero byte. -/
def textOf (cs : List Char) : String :=
  String.ofList (cs.takeWhile (· != '\x00'))

/-- An exclamation mark, a name, and a second exclamation mark if there is one. -/
def handleOf (cs : List Char) : List Char :=
  match cs with
  | '!' :: rest =>
    let name := rest.takeWhile Text.isNameChar
    let ending := if (rest.drop name.length).head? == some '!' then ['!'] else []
    '!' :: (name ++ ending)
  | _ => []

/-- Two exclamation marks, with a name between them or without. -/
def isHandle (cs : List Char) : Bool :=
  1 < cs.length && cs.getLast? == some '!'

/-- A tag and what follows it: in angle brackets, after a handle, or after a single exclamation mark. -/
def read? (cs : List Char) : Option (Token × List Char) :=
  match cs with
  | '!' :: '<' :: rest => do
    let (text, after) ← readChars true 0 rest
    match after with
    | '>' :: after =>
      if text.isEmpty then none else some (.tag "" (textOf text), after)
    | _ => none
  | _ => do
    let handle := handleOf cs
    if isHandle handle then
      let (text, after) ← readChars false 0 (cs.drop handle.length)
      if text.isEmpty then none else some (.tag (String.ofList handle) (textOf text), after)
    else
      let (text, after) ← readChars false 0 (cs.drop 1)
      if (textOf text).isEmpty then some (.tag "" "!", after) else some (.tag "!" (textOf text), after)

/-- The handle of a shorthand, the text that it stands for, and what follows. -/
def shorthand? (cs : List Char) : Option (Token × List Char) := do
  let start := cs.dropWhile isGap
  let handle := handleOf start
  let rest := start.drop handle.length
  if (isHandle handle || handle == ['!']) && rest.head?.any isGap then
    let (text, after) ← readChars true 0 (rest.dropWhile isGap)
    if text.isEmpty || !isEdge after then none
    else some (.shorthand (String.ofList handle) (textOf text), after)
  else none

/-- Up to nine digits. -/
def versionNumber? (cs : List Char) : Option (Nat × List Char) :=
  let digits := cs.takeWhile Char.isDigit
  if digits.isEmpty || 9 < digits.length then none
  else some (digits.foldl (fun n c => n * 10 + (c.toNat - 48)) 0, cs.drop digits.length)

/-- Two numbers with a point between them. -/
def version? (cs : List Char) : Option (Token × List Char) := do
  let (major, rest) ← versionNumber? (cs.dropWhile isGap)
  match rest with
  | '.' :: rest =>
    let (minor, rest) ← versionNumber? rest
    return (.version major minor, rest)
  | _ => none

/-- A directive after its percent sign. -/
def directive? (cs : List Char) : Option (Token × List Char) :=
  let name := cs.takeWhile Text.isNameChar
  let rest := cs.drop name.length
  if !isEdge rest then none
  else if name == "YAML".toList then version? rest
  else if name == "TAG".toList then shorthand? rest
  else none

end ShellTemplate.Yaml.Tag
