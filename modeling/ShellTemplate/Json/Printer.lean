import ShellTemplate.Json.Basic

namespace ShellTemplate.Json

def hexDigit (n : Nat) : Char :=
  if n < 10 then Char.ofNat (48 + n) else Char.ofNat (87 + n)

/-- Quotes, backslashes and control characters below the space are escaped; all else stands as it is. -/
def escaped (c : Char) : String :=
  match c with
  | '"' => "\\\""
  | '\\' => "\\\\"
  | '\n' => "\\n"
  | '\r' => "\\r"
  | '\t' => "\\t"
  | '\x08' => "\\b"
  | '\x0c' => "\\f"
  | c =>
    if c.toNat < 32 then
      "\\u00" ++ String.ofList [hexDigit (c.toNat / 16), hexDigit (c.toNat % 16)]
    else String.singleton c

def quoted (s : String) : String :=
  s.toList.foldl (fun written c => written ++ escaped c) "\"" ++ "\""

mutual

/-- The text of a value without blanks. -/
def compact : Json → String
  | .null => "null"
  | .boolean value => if value then "true" else "false"
  | .integer value => toString value
  | .decimal value => value.text
  | .text value => quoted value
  | .array items => "[" ++ compactItems items ++ "]"
  | .object members => "\x7b" ++ compactMembers members ++ "\x7d"
  | .garbled => "\"\\ud800\""

def compactItems : List Json → String
  | [] => ""
  | [item] => item.compact
  | item :: rest => item.compact ++ "," ++ compactItems rest

def compactMembers : List (String × Json) → String
  | [] => ""
  | [(key, value)] => quoted key ++ ":" ++ value.compact
  | (key, value) :: rest => quoted key ++ ":" ++ value.compact ++ "," ++ compactMembers rest

end

/-- A line end and the indentation of a nested line: two spaces for each level. -/
def lineStart (depth : Nat) : String :=
  String.ofList ('\n' :: List.replicate (2 * depth) ' ')

mutual

/-- The text of a value with each item and member on its own line. -/
def pretty (depth : Nat) : Json → String
  | .array [] => "[]"
  | .array (item :: rest) => "[" ++ prettyItems (depth + 1) (item :: rest) ++ lineStart depth ++ "]"
  | .object [] => "\x7b\x7d"
  | .object (member :: rest) =>
    "\x7b" ++ prettyMembers (depth + 1) (member :: rest) ++ lineStart depth ++ "\x7d"
  | .null => "null"
  | .boolean value => if value then "true" else "false"
  | .integer value => toString value
  | .decimal value => value.text
  | .text value => quoted value
  | .garbled => "\"\\ud800\""

def prettyItems (depth : Nat) : List Json → String
  | [] => ""
  | [item] => lineStart depth ++ item.pretty depth
  | item :: rest => lineStart depth ++ item.pretty depth ++ "," ++ prettyItems depth rest

def prettyMembers (depth : Nat) : List (String × Json) → String
  | [] => ""
  | [(key, value)] => lineStart depth ++ quoted key ++ ": " ++ value.pretty depth
  | (key, value) :: rest =>
    lineStart depth ++ quoted key ++ ": " ++ value.pretty depth ++ "," ++ prettyMembers depth rest

end

end ShellTemplate.Json
