import ShellTemplate.Definition.Kinds

namespace ShellTemplate

/-- When a conditional parameter is needed: while an option is selected, or another parameter has a
value. -/
inductive Condition where
  | option (flag : String)
  | parameter (name : String)
deriving DecidableEq, Repr

/-- What an author declares about a parameter. -/
structure Parameter where
  name : String
  description : String := ""
  required? : Option Bool := none
  default? : Option String := none
  valueType : ValueType := .string
  choices : List String := []
  level? : Option Level := none
  scope? : Option Scope := none
  position? : Option Position := none
  /-- The option whose value this parameter is. -/
  parentOption? : Option String := none
  condition? : Option Condition := none
  isFlag : Bool := false
deriving DecidableEq, Repr

/-- What an author declares about an option. All its spellings mean the same option. -/
structure CommandOption where
  flag? : Option String := none
  shortFlag? : Option String := none
  longFlag? : Option String := none
  description : String := ""
  required : Bool := false
  hasValue : Bool := false
  valueType? : Option ValueType := none
  conflictsWith : List String := []
  dependsOn : List String := []
deriving DecidableEq, Repr

/-- A command template with its parameters, options and what is kept about it. -/
structure Definition where
  id? : Option String := none
  name : String
  description : String := ""
  command : String
  parameters : List Parameter := []
  options : List CommandOption := []
  category? : Option String := none
  tags : List String := []
  commonCommands : List String := []
  isUserCreated? : Option Bool := none
  createdAt? : Option String := none
  updatedAt? : Option String := none
  version : UInt32 := 0
  usageCount : Nat := 0
  lastUsed? : Option String := none
deriving DecidableEq, Repr

/-- A category that commands can be put into; `level` is its depth. -/
structure CategoryInfo where
  id : String
  name : String := ""
  level : UInt8 := 0
  parentId? : Option String := none
deriving DecidableEq, Repr

namespace Condition

/-- The flag or name that the condition speaks of. -/
def target : Condition → String
  | .option flag => flag
  | .parameter name => name

def toJson : Condition → Json
  | .option flag => .object [("option", .text flag)]
  | .parameter name => .object [("parameter", .text name)]

def decoder : Decoder Condition :=
  .tagged [("option", fun json => (Decoder.text json).map .option),
    ("parameter", fun json => (Decoder.text json).map .parameter)]

end Condition

/-- Texts as a JSON array. -/
def textsToJson (values : List String) : Json :=
  .array (values.map .text)

namespace Parameter

def isRequired (p : Parameter) : Bool :=
  p.required? == some true

/-- The same parameter with a list of choices, which also becomes its type. -/
def withChoices (p : Parameter) (choices : List String) : Parameter :=
  { p with valueType := .choice, choices }

/-- The declared default, unless it is empty. -/
def fallback? (p : Parameter) : Option String :=
  p.default?.filter fun value => !value.isEmpty

def toJson (p : Parameter) : Json :=
  .object ([("name", .text p.name), ("description", .text p.description)] ++
    Json.memberIf "required" .boolean p.required? ++ Json.memberIf "defaultValue" .text p.default? ++
    [("type", .text p.valueType.name)] ++ Json.memberIfAny "enumValues" .text p.choices ++
    Json.memberIf "level" (fun level => .text level.name) p.level? ++
    Json.memberIf "scope" (fun scope => .text scope.name) p.scope? ++
    Json.memberIf "position" (fun position => .text position.name) p.position? ++
    Json.memberIf "parentOption" .text p.parentOption? ++
    Json.memberIf "conditionalOn" Condition.toJson p.condition? ++
    (if p.isFlag then [("isFlag", .boolean true)] else []))

def record : Record Parameter :=
  mk <$> .required "name" Decoder.text <*> .defaulted "description" Decoder.text ""
    <*> .optional "required" Decoder.boolean <*> .optional "defaultValue" Decoder.text
    <*> .field "type" ["type", "dataType"] ValueType.decoder (.ok .string)
    <*> .defaulted "enumValues" (.items Decoder.text) [] <*> .optional "level" Level.decoder
    <*> .optional "scope" Scope.decoder <*> .optional "position" Position.decoder
    <*> .optional "parentOption" Decoder.text <*> .optional "conditionalOn" Condition.decoder
    <*> .defaulted "isFlag" Decoder.boolean false

def decoder : Decoder Parameter :=
  record.decode "struct ParameterDefinition"

end Parameter

namespace CommandOption

/-- The same option with a value of the given type. -/
def withValue (o : CommandOption) (valueType : ValueType) : CommandOption :=
  { o with hasValue := true, valueType? := some valueType }

/-- The spellings that are not empty; the preferred one comes first. -/
def spellings (o : CommandOption) : List String :=
  ([o.flag?, o.longFlag?, o.shortFlag?].filterMap id).filter fun flag => !flag.isEmpty

def primaryFlag? (o : CommandOption) : Option String :=
  o.spellings.head?

def isSpelled (o : CommandOption) (flag : String) : Bool :=
  o.spellings.contains flag

/-- The name of the option's value: its flag without the hyphens. -/
def valueName (o : CommandOption) : String :=
  match o.primaryFlag? with
  | some flag => String.ofList (flag.toList.dropWhile (· == '-'))
  | none => "value"

def toJson (o : CommandOption) : Json :=
  .object (Json.memberIf "flag" .text o.flag? ++ Json.memberIf "shortFlag" .text o.shortFlag? ++
    Json.memberIf "longFlag" .text o.longFlag? ++
    [("description", .text o.description), ("required", .boolean o.required),
      ("hasValue", .boolean o.hasValue)] ++
    Json.memberIf "valueType" (fun valueType => .text valueType.name) o.valueType? ++
    Json.memberIfAny "conflictsWith" .text o.conflictsWith ++
    Json.memberIfAny "dependsOn" .text o.dependsOn)

def record : Record CommandOption :=
  mk <$> .optional "flag" Decoder.text <*> .optional "shortFlag" Decoder.text
    <*> .optional "longFlag" Decoder.text <*> .defaulted "description" Decoder.text ""
    <*> .defaulted "required" Decoder.boolean false <*> .defaulted "hasValue" Decoder.boolean false
    <*> .optional "valueType" ValueType.decoder
    <*> .defaulted "conflictsWith" (.items Decoder.text) []
    <*> .defaulted "dependsOn" (.items Decoder.text) []

def decoder : Decoder CommandOption :=
  record.decode "struct OptionDefinition"

end CommandOption

namespace Definition

def findParameter? (d : Definition) (name : String) : Option Parameter :=
  d.parameters.find? (·.name == name)

/-- The first option with the given spelling. -/
def findOption? (d : Definition) (flag : String) : Option CommandOption :=
  d.options.find? (·.isSpelled flag)

/-- The parameter that is the value of an option. -/
def optionParameter? (d : Definition) (o : CommandOption) : Option Parameter :=
  d.parameters.find? fun p => p.parentOption?.any o.isSpelled

/-- A command that no user made. -/
def isSystem (d : Definition) : Bool :=
  d.isUserCreated? == some false

def members (d : Definition) : List (String × Json) :=
  Json.memberIf "id" .text d.id? ++
    [("name", .text d.name), ("description", .text d.description), ("command", .text d.command),
      ("parameters", .array (d.parameters.map Parameter.toJson)),
      ("options", .array (d.options.map CommandOption.toJson))] ++
    Json.memberIf "category" .text d.category? ++
    [("tags", textsToJson d.tags), ("commonCommands", textsToJson d.commonCommands)] ++
    Json.memberIf "isUserCreated" .boolean d.isUserCreated? ++
    Json.memberIf "createdAt" .text d.createdAt? ++ Json.memberIf "updatedAt" .text d.updatedAt? ++
    [("version", .integer d.version.toNat), ("usageCount", .integer d.usageCount)] ++
    Json.memberIf "lastUsed" .text d.lastUsed?

def toJson (d : Definition) : Json :=
  .object d.members

def record : Record Definition :=
  mk <$> .optional "id" Decoder.text <*> .required "name" Decoder.text
    <*> .defaulted "description" Decoder.text "" <*> .required "command" Decoder.text
    <*> .defaulted "parameters" (.items Parameter.decoder) []
    <*> .defaulted "options" (.items CommandOption.decoder) [] <*> .optional "category" Decoder.text
    <*> .defaulted "tags" (.items Decoder.text) [] <*> .defaulted "commonCommands" (.items Decoder.text) []
    <*> .optional "isUserCreated" Decoder.boolean <*> .optional "createdAt" Decoder.text
    <*> .optional "updatedAt" Decoder.text <*> .defaulted "version" Decoder.word 0
    <*> .defaulted "usageCount" (Decoder.natural "u64") 0 <*> .optional "lastUsed" Decoder.text

def decoder : Decoder Definition :=
  record.decode "struct CommandDefinition"

end Definition

namespace CategoryInfo

/-- A category that is named like its id. -/
def ofId (id : String) (level : UInt8) : CategoryInfo :=
  { id, name := id, level }

def toJson (c : CategoryInfo) : Json :=
  .object ([("id", .text c.id), ("name", .text c.name), ("level", .integer c.level.toNat)] ++
    Json.memberIf "parentId" .text c.parentId?)

def record : Record CategoryInfo :=
  mk <$> .required "id" Decoder.text <*> .defaulted "name" Decoder.text ""
    <*> .defaulted "level" Decoder.byte 0 <*> .optional "parentId" Decoder.text

def decoder : Decoder CategoryInfo :=
  record.decode "struct CategoryInfo"

end CategoryInfo

end ShellTemplate
