import ShellTemplate.Json.Basic
import ShellTemplate.Json.Shortest

namespace ShellTemplate.Json

def isSpace (c : Char) : Bool :=
  c == ' ' || c == '\t' || c == '\n' || c == '\r'

def skipSpace (cs : List Char) : List Char :=
  cs.dropWhile isSpace

def hexValue? (c : Char) : Option Nat :=
  if c.isDigit then some (c.toNat - 48)
  else if 'a' ≤ c ∧ c ≤ 'f' then some (c.toNat - 87)
  else if 'A' ≤ c ∧ c ≤ 'F' then some (c.toNat - 55)
  else none

/-- Four hexadecimal digits. -/
def codeUnit? : List Char → Option (Nat × List Char)
  | a :: b :: c :: d :: rest => do
    let a ← hexValue? a
    let b ← hexValue? b
    let c ← hexValue? c
    let d ← hexValue? d
    some (((a * 16 + b) * 16 + c) * 16 + d, rest)
  | _ => none

def simpleEscape? : Char → Option Char
  | '"' => some '"'
  | '\\' => some '\\'
  | '/' => some '/'
  | 'b' => some '\x08'
  | 'f' => some '\x0c'
  | 'n' => some '\n'
  | 'r' => some '\r'
  | 't' => some '\t'
  | _ => none

/-- The character that two escaped halves of a surrogate pair make up. -/
def surrogatePair? (high : Nat) (cs : List Char) : Option (Char × List Char) :=
  match cs with
  | '\\' :: 'u' :: rest => do
    let (low, rest) ← codeUnit? rest
    if high < 0xDC00 ∧ 0xDC00 ≤ low ∧ low < 0xE000 then
      some (Char.ofNat (0x10000 + (high - 0xD800) * 0x400 + (low - 0xDC00)), rest)
    else none
  | _ => none

/-- The character of an escape after its backslash. A surrogate without its other half is none. -/
def escape? : List Char → Option (Option Char × List Char)
  | 'u' :: rest => do
    let (unit, rest) ← codeUnit? rest
    if unit < 0xD800 ∨ 0xE000 ≤ unit then some (some (Char.ofNat unit), rest)
    else
      match surrogatePair? unit rest with
      | some (c, rest) => some (some c, rest)
      | none => some (none, rest)
  | c :: rest => (simpleEscape? c).map fun c => (some c, rest)
  | [] => none

/-- The rest of a string after its opening quote, which is no text if one of its escapes is no
character; `fuel` bounds the characters read. -/
def stringBody? : Nat → List Char → Option (Option (List Char) × List Char)
  | 0, _ => none
  | _ + 1, [] => none
  | fuel + 1, c :: rest =>
    if c == '"' then some (some [], rest)
    else if c == '\\' then do
      let (read?, rest) ← escape? rest
      let (body?, rest) ← stringBody? fuel rest
      some (read?.bind fun read => body?.map (read :: ·), rest)
    else if c.toNat < 32 then none
    else do
      let (body?, rest) ← stringBody? fuel rest
      some (body?.map (c :: ·), rest)

def digitValue (c : Char) : Nat :=
  c.toNat - 48

def ofDigits (cs : List Char) : Nat :=
  cs.foldl (fun n c => 10 * n + digitValue c) 0

/-- One digit or more. -/
def digits? (cs : List Char) : Option (List Char × List Char) :=
  match cs.takeWhile Char.isDigit with
  | [] => none
  | run => some (run, cs.dropWhile Char.isDigit)

/-- The exponent after its `e`. -/
def exponent? : List Char → Option (Int × List Char)
  | '-' :: rest => (digits? rest).map fun (run, rest) => (-(ofDigits run : Int), rest)
  | '+' :: rest => (digits? rest).map fun (run, rest) => ((ofDigits run : Int), rest)
  | rest => (digits? rest).map fun (run, rest) => ((ofDigits run : Int), rest)

/-- The nearest double; a number too large for one stays as written. -/
def nearest (d : Decimal) : Json :=
  .decimal (d.rounded?.getD d)

/-- A whole number that fits 64 bits stays whole; any other becomes the nearest double, and minus zero
is one of those. -/
def wholeNumber (negative : Bool) (magnitude : Nat) : Json :=
  if !negative && magnitude < UInt64.size then .integer magnitude
  else if negative && 0 < magnitude && magnitude ≤ UInt64.size / 2 then .integer (-(magnitude : Int))
  else nearest ⟨negative, magnitude, 0⟩

/-- A number without its sign. -/
def unsigned? (negative : Bool) (cs : List Char) : Option (Json × List Char) := do
  let (whole, rest) ←
    match cs with
    | '0' :: rest => some (['0'], rest)
    | rest => digits? rest
  let (fraction, rest) ←
    match rest with
    | '.' :: rest => digits? rest
    | rest => some ([], rest)
  let (exponent, rest, scaled) ←
    match rest with
    | 'e' :: rest | 'E' :: rest => (exponent? rest).map fun (e, rest) => (e, rest, true)
    | rest => some (0, rest, false)
  if fraction.isEmpty && !scaled then some (wholeNumber negative (ofDigits whole), rest)
  else some (nearest ⟨negative, ofDigits (whole ++ fraction), exponent - fraction.length⟩, rest)

mutual

/-- One value; `fuel` bounds the depth and length of what is read. -/
def value? : Nat → List Char → Option (Json × List Char)
  | 0, _ => none
  | fuel + 1, cs =>
    match skipSpace cs with
    | 'n' :: 'u' :: 'l' :: 'l' :: rest => some (.null, rest)
    | 't' :: 'r' :: 'u' :: 'e' :: rest => some (.boolean true, rest)
    | 'f' :: 'a' :: 'l' :: 's' :: 'e' :: rest => some (.boolean false, rest)
    | '"' :: rest => (stringBody? (rest.length + 1) rest).map fun (body?, rest) =>
        ((body?.map fun body => .text (String.ofList body)).getD .garbled, rest)
    | '-' :: rest => unsigned? true rest
    | '[' :: rest =>
      match skipSpace rest with
      | ']' :: rest => some (.array [], rest)
      | rest => (items? fuel rest).map fun (items, rest) => (.array items, rest)
    | '\x7b' :: rest =>
      match skipSpace rest with
      | '\x7d' :: rest => some (.object [], rest)
      | rest => (members? fuel rest).map fun (members?, rest) =>
          ((members?.map .object).getD .garbled, rest)
    | rest => unsigned? false rest

/-- The items of an array up to its closing bracket. -/
def items? : Nat → List Char → Option (List Json × List Char)
  | 0, _ => none
  | fuel + 1, cs => do
    let (item, rest) ← value? fuel cs
    match skipSpace rest with
    | ',' :: rest => (items? fuel rest).map fun (items, rest) => (item :: items, rest)
    | ']' :: rest => some ([item], rest)
    | _ => none

/-- The members of an object up to its closing brace, if all the keys are texts. -/
def members? : Nat → List Char → Option (Option (List (String × Json)) × List Char)
  | 0, _ => none
  | fuel + 1, cs =>
    match skipSpace cs with
    | '"' :: rest => do
      let (key?, rest) ← stringBody? (rest.length + 1) rest
      match skipSpace rest with
      | ':' :: rest =>
        let (value, rest) ← value? fuel rest
        let member? := key?.map fun key => (String.ofList key, value)
        match skipSpace rest with
        | ',' :: rest =>
          let (later?, rest) ← members? fuel rest
          return (member?.bind fun member => later?.map (member :: ·), rest)
        | '\x7d' :: rest => some (member?.map ([·]), rest)
        | _ => none
      | _ => none
    | _ => none

end

/-- Reads a text that is one JSON value with nothing but spaces around it. -/
def parse? (s : String) : Option Json :=
  let cs := s.toList
  match value? (2 * cs.length + 2) cs with
  | some (value, rest) => if (skipSpace rest).isEmpty then some value else none
  | none => none

end ShellTemplate.Json
