import ShellTemplate.Definition
import ShellTemplate.Files.Path
import ShellTemplate.Json.Parser
import ShellTemplate.Settings

namespace ShellTemplate

/-- Why nothing can be opened at a path. -/
inductive OpenError where
  | absent
  /-- The path goes on after a file. -/
  | underFile
  | other (reason : String)
deriving DecidableEq, Repr

/-- What stands at a path. -/
inductive Entry where
  | file (text : String)
  /-- A file whose bytes are no text. -/
  | binary
  | directory (names : List String)
  | missing (error : OpenError)
deriving DecidableEq, Repr

/-- What stands at each path. -/
abbrev Files := String → Entry

/-- Why there is no definition in a file. -/
inductive DefinitionFileError where
  | unopened (error : OpenError)
  | noText
  | noJson
  | decode (error : DecodeError)
deriving DecidableEq, Repr

/-- Why there are no settings in a file. -/
inductive SettingsFileError where
  | unopened (error : OpenError)
  | unusable (error : SettingsError)
deriving DecidableEq, Repr

/-- Why the files to check cannot be told. -/
inductive CollectError where
  | notJson (path : String)
  | absent (path : String)
  | nothing
deriving DecidableEq, Repr

namespace OpenError

def message : OpenError → String
  | .absent => "No such file or directory (os error 2)"
  | .underFile => "Not a directory (os error 20)"
  | .other reason => reason

end OpenError

namespace DefinitionFileError

def message (path : String) : DefinitionFileError → String
  | .unopened error => s!"Failed to read '{path}': {error.message}"
  | .noText => s!"Failed to parse definition '{path}': JSON error: the file holds no text"
  | .noJson => s!"Failed to parse definition '{path}': JSON error: the text is no JSON value"
  | .decode error => s!"Failed to parse definition '{path}': JSON error: {error.message}"

end DefinitionFileError

namespace SettingsFileError

def message (path : String) : SettingsFileError → String
  | .unopened error => s!"Failed to load config '{path}': I/O error: {error.message}"
  | .unusable error => s!"Failed to load config '{path}': {error.message}"

end SettingsFileError

namespace CollectError

def message : CollectError → String
  | .notJson path => s!"Definition file '{path}' must end in .json"
  | .absent path => s!"Definition path '{path}' does not exist"
  | .nothing => "No definition JSON files found in provided inputs"

end CollectError

namespace Files

def definition (files : Files) (path : String) : Except DefinitionFileError Definition :=
  match files path with
  | .missing error => .error (.unopened error)
  | .binary | .directory _ => .error .noText
  | .file text =>
    match Json.parse? text with
    | none => .error .noJson
    | some json => (Definition.decoder json).mapError .decode

def settings (files : Files) (path : String) : Except SettingsFileError Settings :=
  match files path with
  | .missing error => .error (.unopened error)
  | .binary | .directory _ => .error (.unusable .unreadable)
  | .file text => (Settings.ofText text).mapError .unusable

/-- The definition files that an input stands for: itself, or what a directory holds. -/
def collected (files : Files) (input : String) : Except CollectError (List String) :=
  match files input with
  | .directory names => .ok ((names.filter Path.isJson).map (Path.join input))
  | .file _ | .binary => if Path.isJson input then .ok [input] else .error (.notJson input)
  | .missing _ => .error (.absent input)

/-- The definition files that the inputs stand for, in order. There must be one at least. -/
def collect (files : Files) (inputs : List String) : Except CollectError (List String) := do
  match Path.arranged (← inputs.mapM files.collected).flatten with
  | [] => .error .nothing
  | paths => .ok paths

end Files

end ShellTemplate
