import ShellTemplate.Definition
import ShellTemplate.Sorted

namespace ShellTemplate

/-- An operator to put after the command, with what follows it. -/
structure TrailingSegment where
  symbol : String
  target? : Option String := none
deriving DecidableEq, Repr

/-- What a user chose for one build of a command. -/
structure Selection where
  mode : BuildMode := .template
  subcommands : List String := []
  options : NameSet := {}
  parameterValues : Assignments := {}
  /-- Values of options, under any of their spellings. -/
  optionValues : Assignments := {}
  trailing : List TrailingSegment := []
  useDefaults : Bool := true
  validateRequired : Bool := true
  escapeValues : Bool := true
deriving DecidableEq, Inhabited

namespace TrailingSegment

def toJson (t : TrailingSegment) : Json :=
  .object (("symbol", .text t.symbol) :: Json.memberIf "target" .text t.target?)

def record : Record TrailingSegment :=
  mk <$> .required "symbol" Decoder.text <*> .optional "target" Decoder.text

def decoder : Decoder TrailingSegment :=
  record.decode "struct TrailingSegment"

end TrailingSegment

namespace NameSet

def decoder : Decoder NameSet := fun json =>
  (Decoder.items Decoder.text json).map SortedList.ofList

end NameSet

namespace Assignments

def toJson (a : Assignments) : Json :=
  .object (a.toList.map fun (name, value) => (name, .text value))

def decoder : Decoder Assignments := fun json =>
  (Decoder.mapping Decoder.text json).map SortedList.ofList

end Assignments

namespace Selection

def addSubcommand (s : Selection) (name : String) : Selection :=
  { s with subcommands := s.subcommands ++ [name] }

def addOption (s : Selection) (flag : String) : Selection :=
  { s with options := s.options.insert flag }

/-- Giving an option a value selects it too. -/
def addOptionValue (s : Selection) (flag value : String) : Selection :=
  { s.addOption flag with optionValues := s.optionValues.insert (flag, value) }

def addValue (s : Selection) (name value : String) : Selection :=
  { s with parameterValues := s.parameterValues.insert (name, value) }

def addTrailing (s : Selection) (symbol : String) (target? : Option String) : Selection :=
  { s with trailing := s.trailing ++ [⟨symbol, target?⟩] }

def isSelected (s : Selection) (flag : String) : Bool :=
  s.options.contains flag

/-- The first spelling of an option that is selected. -/
def selectedSpelling? (s : Selection) (o : CommandOption) : Option String :=
  o.spellings.find? s.isSelected

/-- The value given for a parameter, unless it is blank. -/
def value? (s : Selection) (name : String) : Option String :=
  (s.parameterValues.get? name).filter fun value => !Text.isBlankText value

/-- The first value that is not blank among those given for the spellings of an option. -/
def optionValue? (s : Selection) (o : CommandOption) : Option String :=
  (o.spellings.filterMap s.optionValues.get?).find? fun value => !Text.isBlankText value

def toJson (s : Selection) : Json :=
  .object [("mode", .text s.mode.name), ("selectedSubcommands", textsToJson s.subcommands),
    ("selectedOptions", textsToJson s.options.toList),
    ("parameterValues", s.parameterValues.toJson), ("optionValues", s.optionValues.toJson),
    ("trailing", .array (s.trailing.map TrailingSegment.toJson)),
    ("useDefaults", .boolean s.useDefaults), ("validateRequired", .boolean s.validateRequired),
    ("escapeValues", .boolean s.escapeValues)]

def record : Record Selection :=
  mk <$> .defaulted "mode" BuildMode.decoder .template
    <*> .defaulted "selectedSubcommands" (.items Decoder.text) []
    <*> .defaulted "selectedOptions" NameSet.decoder {}
    <*> .defaulted "parameterValues" Assignments.decoder {}
    <*> .defaulted "optionValues" Assignments.decoder {}
    <*> .defaulted "trailing" (.items TrailingSegment.decoder) []
    <*> .defaulted "useDefaults" Decoder.boolean true
    <*> .defaulted "validateRequired" Decoder.boolean true
    <*> .defaulted "escapeValues" Decoder.boolean true

def decoder : Decoder Selection :=
  record.decode "struct BuildConfig"

/-- Whether an option is selected under any spelling of the option that declares the flag. -/
def hasOption (s : Selection) (d : Definition) (flag : String) : Bool :=
  match d.findOption? flag with
  | some o => (s.selectedSpelling? o).isSome
  | none => s.isSelected flag

end Selection

end ShellTemplate
