import ShellTemplate.Json.Decode
import ShellTemplate.Text.Blank
import ShellTemplate.Text.Names

namespace ShellTemplate

/-- What kind of value a parameter or option takes. -/
inductive ValueType where
  | string
  | number
  | file
  | directory
  | url
  | email
  | boolean
  | choice
deriving DecidableEq, Repr, Inhabited

/-- Whether a parameter must get a value. -/
inductive Requirement where
  | required
  | optional
  | conditional
  | none
deriving DecidableEq, Repr, Inhabited

/-- The part of a command line that a parameter belongs to. -/
inductive Level where
  | command
  | option
  | subcommand
  | global
deriving DecidableEq, Repr, Inhabited

/-- Where a parameter can be seen. -/
inductive Scope where
  | global
  | local
  | inherited
  | isolated
deriving DecidableEq, Repr, Inhabited

/-- How a parameter is written on the command line. -/
inductive Position where
  | positional
  | named
  | flag
  | value
deriving DecidableEq, Repr, Inhabited

/-- A requirement and a level that go together under one name. -/
inductive Category where
  | requiredCommand
  | optionalCommand
  | requiredOption
  | optionalOption
  | conditional
  | global
  | unknown
deriving DecidableEq, Repr, Inhabited

/-- When a value must be present. -/
inductive ValuePolicy where
  | always
  | never
  | conditional
deriving DecidableEq, Repr, Inhabited

/-- How much a missing value matters. -/
inductive Priority where
  | low
  | medium
  | high
deriving DecidableEq, Repr, Inhabited

/-- Whether a parameter may move on the command line. -/
inductive Placement where
  | fixed
  | flexible
deriving DecidableEq, Repr, Inhabited

/-- What a build makes: the template with its placeholders, a command to run, or nothing but its
findings. -/
inductive BuildMode where
  | template
  | executable
  | validation
deriving DecidableEq, Repr, Inhabited

/-- A text that names no build mode. -/
structure UnknownBuildMode where
  text : String
deriving DecidableEq, Repr

namespace ValueType

def all : List ValueType :=
  [.string, .number, .file, .directory, .url, .email, .boolean, .choice]

def name : ValueType → String
  | .string => "string"
  | .number => "number"
  | .file => "file"
  | .directory => "directory"
  | .url => "url"
  | .email => "email"
  | .boolean => "boolean"
  | .choice => "enum"

/-- A file may also be called a path. -/
def decoder : Decoder ValueType :=
  .choice [("string", .string), ("number", .number), ("file", .file), ("path", .file),
    ("directory", .directory), ("url", .url), ("email", .email), ("boolean", .boolean), ("enum", .choice)]

end ValueType

namespace Requirement

def all : List Requirement :=
  [.required, .optional, .conditional, .none]

def name : Requirement → String
  | .required => "required"
  | .optional => "optional"
  | .conditional => "conditional"
  | .none => "none"

def decoder : Decoder Requirement :=
  .choice (all.map fun kind => (kind.name, kind))

end Requirement

namespace Level

def all : List Level :=
  [.command, .option, .subcommand, .global]

def name : Level → String
  | .command => "command"
  | .option => "option"
  | .subcommand => "subcommand"
  | .global => "global"

def decoder : Decoder Level :=
  .choice (all.map fun kind => (kind.name, kind))

end Level

namespace Scope

def all : List Scope :=
  [.global, .local, .inherited, .isolated]

def name : Scope → String
  | .global => "global"
  | .local => "local"
  | .inherited => "inherited"
  | .isolated => "isolated"

def decoder : Decoder Scope :=
  .choice (all.map fun kind => (kind.name, kind))

end Scope

namespace Position

def all : List Position :=
  [.positional, .named, .flag, .value]

def name : Position → String
  | .positional => "positional"
  | .named => "named"
  | .flag => "flag"
  | .value => "value"

def decoder : Decoder Position :=
  .choice (all.map fun kind => (kind.name, kind))

end Position

namespace Category

def all : List Category :=
  [.requiredCommand, .optionalCommand, .requiredOption, .optionalOption, .conditional,
    .global, .unknown]

def name : Category → String
  | .requiredCommand => "REQUIRED_COMMAND"
  | .optionalCommand => "OPTIONAL_COMMAND"
  | .requiredOption => "REQUIRED_OPTION"
  | .optionalOption => "OPTIONAL_OPTION"
  | .conditional => "CONDITIONAL"
  | .global => "GLOBAL"
  | .unknown => "UNKNOWN"

def decoder : Decoder Category :=
  .choice (all.map fun kind => (kind.name, kind))

end Category

namespace ValuePolicy

def all : List ValuePolicy :=
  [.always, .never, .conditional]

def name : ValuePolicy → String
  | .always => "always"
  | .never => "never"
  | .conditional => "conditional"

def decoder : Decoder ValuePolicy :=
  .choice (all.map fun kind => (kind.name, kind))

end ValuePolicy

namespace Priority

def all : List Priority :=
  [.low, .medium, .high]

def name : Priority → String
  | .low => "low"
  | .medium => "medium"
  | .high => "high"

def decoder : Decoder Priority :=
  .choice (all.map fun kind => (kind.name, kind))

end Priority

namespace Placement

def all : List Placement :=
  [.fixed, .flexible]

def name : Placement → String
  | .fixed => "fixed"
  | .flexible => "flexible"

def decoder : Decoder Placement :=
  .choice (all.map fun kind => (kind.name, kind))

end Placement

namespace BuildMode

def all : List BuildMode :=
  [.template, .executable, .validation]

def name : BuildMode → String
  | .template => "template"
  | .executable => "executable"
  | .validation => "validation"

def decoder : Decoder BuildMode :=
  .choice (all.map fun kind => (kind.name, kind))

/-- A mode by its name in any case, with blanks around it or not. -/
def ofText (text : String) : Except UnknownBuildMode BuildMode :=
  match all.find? (·.name == Text.asciiLowercase (Text.trim text)) with
  | some mode => .ok mode
  | none => .error ⟨text⟩

end BuildMode

namespace UnknownBuildMode

def message (e : UnknownBuildMode) : String :=
  "invalid build mode: " ++ e.text

end UnknownBuildMode

end ShellTemplate
