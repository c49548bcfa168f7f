import ShellTemplate.Json.Shortest
import ShellTemplate.Placeholder
import ShellTemplate.Report
import ShellTemplate.Selection

namespace ShellTemplate

/-- Values to offer for a parameter. -/
structure ParameterSuggestion where
  name : String
  description : String
  required : Bool
  values : List String

/-- An option that may still be selected. -/
structure OptionSuggestion where
  flag : String
  description : String
  score : Float

/-- A common command line with the confidence that it fits. -/
structure CombinationSuggestion where
  command : String
  confidence : Float

/-- What can be offered to complete a selection. -/
structure Suggestions where
  parameters : List ParameterSuggestion
  options : List OptionSuggestion
  combinations : List CombinationSuggestion
  warnings : List Diagnostic

namespace Suggestions

def nameHolds (p : Parameter) (run : String) : Bool :=
  Text.holdsRun run.toList (Text.asciiLowercase p.name).toList

/-- Examples of values, by the type of a parameter and the words in its name. -/
def examples (p : Parameter) : List String :=
  let named := nameHolds p
  let urls := ["https://example.com", "http://localhost:3000"]
  match p.valueType with
  | .boolean => ["true", "false"]
  | .number =>
    if named "port" then ["3000", "8080", "80", "443"]
    else if named "count" || named "limit" then ["10", "50", "100"]
    else []
  | .string =>
    if named "url" || named "link" then urls
    else if named "email" then ["user@example.com"]
    else []
  | .url => if named "url" || named "link" then urls else []
  | .email => if named "email" then ["user@example.com"] else []
  | .file => ["./file.txt", "../path/to/file", "*.txt"]
  | .directory => ["./", "../", "/path/to/directory"]
  | .choice => []

/-- The default comes first, then the choices, then examples; each value once. -/
def valuesOf (p : Parameter) : List String :=
  Text.distinct (p.fallback?.toList ++ p.choices ++ examples p)

def part (count total : Nat) (whole : Float) : Float :=
  count.toFloat / total.toFloat * whole

/-- Up to 50 for the needed options that are selected, and more for options that are usually wanted. -/
def score (d : Definition) (s : Selection) (o : CommandOption) : Float :=
  let needs := if o.dependsOn.isEmpty then 0.0
    else part (o.dependsOn.countP (s.hasOption d)) o.dependsOn.length 50.0
  let required := if o.required then needs + 20.0 else needs
  let help := if o.isSpelled "--help" || o.isSpelled "-h" then required + 10.0 else required
  if o.isSpelled "--verbose" || o.isSpelled "-v" then help + 5.0 else help

/-- A base of 50, up to 30 for placeholders that the selection fills, less up to 20 for the length. -/
def confidence (s : Selection) (command : String) : Float :=
  let names := Placeholder.names command
  let filled := if names.isEmpty then 50.0
    else 50.0 + part (names.countP fun name => (s.value? name).isSome) names.length 30.0
  let length := min 20 (Text.blankRuns (Text.trim command).toList)
  let result := filled - length.toFloat
  if result < 0.0 then 0.0 else if 100.0 < result then 100.0 else result

/-- An option can be offered if it is not selected and excludes no selected one. -/
def isOffered (d : Definition) (s : Selection) (o : CommandOption) : Bool :=
  (s.selectedSpelling? o).isNone && !o.conflictsWith.any (s.hasOption d)

def optionSuggestion? (d : Definition) (s : Selection) (o : CommandOption) :
    Option OptionSuggestion :=
  if isOffered d s o then
    o.primaryFlag?.map fun flag => ⟨flag, o.description, score d s o⟩
  else none

def advise (issue : Issue) (field : String) : Diagnostic :=
  .ofIssue .warning issue (some field)

/-- Required parameters without a value, and conflicts within the selection. -/
def problems (d : Definition) (s : Selection) : List Diagnostic :=
  ((d.parameters.filter fun p => p.isRequired && (s.value? p.name).isNone).map fun p =>
    advise (.missingRequiredValue p.name) p.name) ++
  d.options.flatMap fun o =>
    match s.selectedSpelling? o with
    | none => []
    | some spelling => (o.conflictsWith.filter (s.hasOption d)).map fun target =>
        advise (.optionConflict spelling target) spelling

/-- What can be offered for a selection; the best scores come first, and equal ones keep their order. -/
def ofSelection (d : Definition) (s : Selection) : Suggestions where
  parameters := d.parameters.map fun p => ⟨p.name, p.description, p.isRequired, valuesOf p⟩
  options := (d.options.filterMap (optionSuggestion? d s)).mergeSort fun a b => b.score ≤ a.score
  combinations := (d.commonCommands.map fun command => ⟨command, confidence s command⟩).mergeSort
    fun (a b : CombinationSuggestion) => b.confidence ≤ a.confidence
  warnings := problems d s

def toJson (s : Suggestions) : Json :=
  .object [
    ("parameters", .array (s.parameters.map fun p => .object [("name", .text p.name),
      ("description", .text p.description), ("required", .boolean p.required),
      ("values", textsToJson p.values)])),
    ("options", .array (s.options.map fun o => .object [("flag", .text o.flag),
      ("description", .text o.description), ("score", .decimal (.ofFloat o.score))])),
    ("combinations", .array (s.combinations.map fun c => .object [("command", .text c.command),
      ("confidence", .decimal (.ofFloat c.confidence))])),
    ("warnings", Report.diagnosticsToJson s.warnings)]

end Suggestions

end ShellTemplate
