import ShellTemplate.Report
import ShellTemplate.Text.Digit

namespace ShellTemplate.Check

/-- An optional minus, then digits of any script with at most one point, which a digit follows. -/
def isNumber (cs : List Char) : Bool :=
  let unsigned := if cs.head? == some '-' then cs.drop 1 else cs
  match Text.splitFirst? (· == '.') unsigned with
  | some (whole, fraction) => whole.all Text.isDecimalDigit && Text.isDigits fraction
  | none => Text.isDigits unsigned

/-- No blanks and one at sign, with something before it and a point inside what follows it. -/
def isEmail (cs : List Char) : Bool :=
  let plain (cs : List Char) := cs.all fun c => !Text.isBlank c && c != '@'
  match Text.splitFirst? (· == '@') cs with
  | some (mailbox, host) =>
    !mailbox.isEmpty && plain mailbox && plain host && (host.drop 1).dropLast.contains '.'
  | none => false

def isSchemeChar (c : Char) : Bool :=
  c.isAlphanum || c == '+' || c == '.' || c == '-'

/-- A scheme, `://`, a host that is not empty, and no blanks. -/
def isUrl (cs : List Char) : Bool :=
  cs.head?.any Char.isAlpha &&
    match cs.dropWhile isSchemeChar with
    | ':' :: '/' :: '/' :: c :: rest =>
      !Text.isBlank c && c != '/' && c != '?' && c != '#' && rest.all fun d => !Text.isBlank d
    | _ => false

def isBooleanWord (value : String) : Bool :=
  ["true", "false", "1", "0", "yes", "no", "on", "off"].contains (Text.asciiLowercase value)

/-- Characters that no path holds. -/
def isForbiddenInPath (c : Char) : Bool :=
  ['<', '>', '"', '|', '?', '*', '\x00'].contains c

def isSuspiciousPath (cs : List Char) : Bool :=
  Text.holdsRun ['.', '.'] cs || Text.holdsRun ['/', '/'] cs

/-- Checks a value against its type. A list of choices that is empty allows every value. -/
def value (name : String) (valueType : ValueType) (choices : List String) (value : String) : Report :=
  let cs := value.toList
  let require (holds : Bool) : Report :=
    .guarded (!holds) (.error (.invalidValue name valueType value) (some name))
  match valueType with
  | .string => {}
  | .number => require (isNumber cs)
  | .url => require (isUrl cs)
  | .email => require (isEmail cs)
  | .boolean => require (isBooleanWord value)
  | .file | .directory =>
    if cs.any isForbiddenInPath then require false
    else .guarded (isSuspiciousPath cs) (.warning (.suspiciousPath name value) (some name))
  | .choice =>
    .guarded (!choices.isEmpty && !choices.contains value)
      (.error (.notInEnum name value (", ".intercalate choices)) (some name))

end ShellTemplate.Check
