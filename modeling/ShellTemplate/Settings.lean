import ShellTemplate.Json.Decode
import ShellTemplate.Yaml.Node

namespace ShellTemplate

/-- How a session works. -/
structure Settings where
  validation : Bool := true
  suggestions : Bool := true
  security : Bool := true
  /-- Warnings count as errors when a command is created or updated. -/
  strict : Bool := false
  /-- A version is recorded whenever a command is created or updated. -/
  autoSave : Bool := true
  historyVersions : Nat := 10
  systemModification : Bool := false
deriving DecidableEq, Repr, Inhabited

/-- Why a settings file cannot be used. -/
inductive SettingsError where
  | unreadable
  | noHistory
deriving DecidableEq, Repr

namespace Settings

def record : Record Settings :=
  mk <$> .defaulted "enable_validation" Decoder.boolean true
    <*> .defaulted "enable_suggestions" Decoder.boolean true
    <*> .defaulted "enable_security" Decoder.boolean true
    <*> .defaulted "strict_mode" Decoder.boolean false
    <*> .defaulted "auto_save" Decoder.boolean true
    <*> .defaulted "max_history_versions" (Decoder.natural "usize") 10
    <*> .defaulted "allow_system_modification" Decoder.boolean false

def decoder : Decoder Settings :=
  record.decode "struct ManagerConfig"

def members (s : Settings) : List (String × Json) :=
  [("enable_validation", .boolean s.validation), ("enable_suggestions", .boolean s.suggestions),
    ("enable_security", .boolean s.security), ("strict_mode", .boolean s.strict),
    ("auto_save", .boolean s.autoSave), ("max_history_versions", .integer s.historyVersions),
    ("allow_system_modification", .boolean s.systemModification)]

def toJson (s : Settings) : Json :=
  .object s.members

def wordOf : Json → String
  | .boolean value => if value then "true" else "false"
  | .integer value => toString value
  | _ => ""

/-- One line for each setting. -/
def toText (s : Settings) : String :=
  String.join (s.members.map fun (key, value) => key ++ ": " ++ wordOf value ++ "\n")

/-- The digits of a number in the given base, without a sign. -/
def digits? (base : Nat) (cs : List Char) : Option Nat :=
  if cs.isEmpty then none
  else cs.foldl (fun total? c => do
    let total ← total?
    let digit := if c.isDigit then c.toNat - 48 else if c.isAlpha then c.toLower.toNat - 87 else 36
    if digit < base then some (total * base + digit) else none) (some 0)

/-- A whole number that fits 64 bits; a prefix gives the base, and zeros must not lead. -/
def natural? (text : String) : Option Nat :=
  let cs := match text.toList with
    | '+' :: rest => rest
    | cs => cs
  let value? := match cs with
    | '0' :: 'x' :: rest => digits? 16 rest
    | '0' :: 'o' :: rest => digits? 8 rest
    | '0' :: 'b' :: rest => digits? 2 rest
    | '0' :: _ :: _ => none
    | cs => digits? 10 cs
  value?.filter (· < UInt64.size)

/-- A truth value in one of three cases. -/
def boolean? (text : String) : Option Bool :=
  if ["true", "True", "TRUE"].contains text then some true
  else if ["false", "False", "FALSE"].contains text then some false
  else none

/-- The value of a scalar. Quotes make a text of it, and so does a block unless a tag tells its type. -/
def valueOf (s : Yaml.Scalar) : Json :=
  let typed (name : String) : Bool :=
    s.style == .plain || s.style == .literal && s.tag? == some ("tag:yaml.org,2002:" ++ name)
  match (boolean? s.text).filter fun _ => typed "bool" with
  | some value => .boolean value
  | none =>
    match (natural? s.text).filter fun _ => typed "int" with
    | some n => .integer n
    | none => .text s.text

/-- A setting and its value in a document. A collection is the value of no setting. -/
def member? (d : Yaml.Document) (entry : Yaml.Node × Yaml.Node) : Option (String × Json) := do
  match ← d.resolve? entry.1 with
  | .scalar key =>
    match ← d.resolve? entry.2 with
    | .scalar value => return (key.text, valueOf value)
    | _ => return (key.text, .null)
  | _ => none

/-- The members of a document, which can be empty but not a word or a list. -/
def membersOf? (d : Yaml.Document) : Option (List (String × Json)) :=
  match d.root? with
  | none => some []
  | some (.mapping entries) => entries.mapM (member? d)
  | some (.scalar s) => if s.isEmpty then some [] else none
  | some _ => none

/-- Reads the settings from a document, where a setting that is not named has its usual value. -/
def ofText (text : String) : Except SettingsError Settings :=
  match (Yaml.Document.ofText? text).bind membersOf? with
  | none => .error .unreadable
  | some members =>
    match record.ofMembers false members with
    | .error _ => .error .unreadable
    | .ok s => if s.historyVersions = 0 then .error .noHistory else .ok s

end Settings

namespace SettingsError

def message : SettingsError → String
  | .unreadable => "YAML error: not a document of settings"
  | .noHistory => "invalid config: max_history_versions must be at least 1"

end SettingsError

end ShellTemplate
