import ShellTemplate.Analysis
import ShellTemplate.Invocation.Arguments
import ShellTemplate.Selection

namespace ShellTemplate

/-- How tokens are printed. -/
inductive TokenFormat where
  | json
  | text
deriving DecidableEq, Repr

/-- What is analyzed: a command line as given, or the template of the definition in a file. -/
inductive AnalysisSubject where
  | line (command : String)
  | definition (path : String)
deriving DecidableEq, Repr

/-- What the program is asked to do. -/
inductive Request where
  | tokenize (command : String) (format : TokenFormat)
  | analyze (subject : AnalysisSubject) (options : AnalysisOptions)
  | classify (path : String) (subcommand? : Option String)
  | validate (inputs : List String) (json : Bool)
  | build (path : String) (selection : Selection) (json : Bool)
  | suggest (path : String) (selection : Selection)
deriving DecidableEq

/-- A run of the program. -/
structure Invocation where
  settingsPath? : Option String
  request : Request
deriving DecidableEq

/-- A command with the arguments that it takes, and how they are understood. -/
structure RequestForm where
  name : String
  options : List OptionForm
  operand? : Option OperandForm := none
  read : Arguments → Except UsageError Request

namespace TokenFormat

def all : List (String × TokenFormat) :=
  [("json", .json), ("text", .text)]

end TokenFormat

namespace RequestForm

def readTokenize (a : Arguments) : Except UsageError Request :=
  match a.operands with
  | command :: _ => .ok (.tokenize command (a.choice "format" TokenFormat.all .text))
  | [] => .error (.missingOperand "command")

def readAnalyze (a : Arguments) : Except UsageError Request :=
  let options : AnalysisOptions :=
    { security := !a.has "no-security", precedence := !a.has "no-precedence" }
  match a.operands, a.value? "definition" with
  | command :: _, none => .ok (.analyze (.line command) options)
  | [], some path => .ok (.analyze (.definition path) options)
  | [], none => .error (.missingOperand "command")
  | command :: _, some _ => .error (.unexpectedOperand command)

def readClassify (a : Arguments) : Except UsageError Request := do
  return .classify (← a.required "definition") (a.value? "subcommand")

def readValidate (a : Arguments) : Except UsageError Request :=
  match a.operands with
  | [] => .error (.missingOperand "inputs")
  | inputs => .ok (.validate inputs (a.has "json"))

/-- What the options select; of values with one name the last counts. -/
def readSelection (a : Arguments) : Selection :=
  let s := (a.values "subcommand").foldl Selection.addSubcommand {}
  let s := (a.values "option").foldl Selection.addOption s
  let s := (a.assignments "option-value").foldl (fun s (flag, value) => s.addOptionValue flag value) s
  (a.assignments "set").foldl (fun s (name, value) => s.addValue name value) s

/-- An operator, and after a blank what follows it. -/
def trailingSegment (written : String) : TrailingSegment :=
  let written := Text.trim written
  match Text.splitFirst? Text.isBlank written.toList with
  | some (symbol, target) => ⟨String.ofList symbol, Text.trimmed? (String.ofList target)⟩
  | none => ⟨written, none⟩

def buildModes : List (String × BuildMode) :=
  BuildMode.all.map fun mode => (mode.name, mode)

def readBuild (a : Arguments) : Except UsageError Request := do
  let selection := readSelection a
  let selection := { selection with
    mode := a.choice "mode" buildModes .executable
    trailing := (a.values "trailing").map trailingSegment
    useDefaults := !a.has "no-defaults"
    validateRequired := !a.has "no-validate-required"
    escapeValues := !a.has "no-escape" }
  return .build (← a.required "definition") selection (a.has "json")

def readSuggest (a : Arguments) : Except UsageError Request := do
  return .suggest (← a.required "definition") (readSelection a)

def definitionOption : OptionForm :=
  { name := "definition", value? := some .path }

def switch (name : String) : OptionForm :=
  { name, value? := none }

/-- An option whose value is one of the names. -/
def choiceOption {α : Type} (name : String) (known : List (String × α)) : OptionForm :=
  { name, value? := some (.oneOf (known.map Prod.fst)) }

/-- The options that make a selection. -/
def selectionOptions : List OptionForm :=
  [definitionOption, { name := "set", value? := some .assignment, repeats := true },
    { name := "option", repeats := true, anyValue := true },
    { name := "option-value", value? := some .assignment, repeats := true, anyValue := true },
    { name := "subcommand", repeats := true }]

def all : List RequestForm :=
  [{ name := "tokenize", options := [choiceOption "format" TokenFormat.all]
     operand? := some { name := "command" }, read := readTokenize },
    { name := "analyze", options := [definitionOption, switch "no-security", switch "no-precedence"]
      operand? := some { name := "command" }, read := readAnalyze },
    { name := "classify", options := [definitionOption, { name := "subcommand" }]
      read := readClassify },
    { name := "validate", options := [switch "json"]
      operand? := some { name := "inputs", value := .path, repeats := true }, read := readValidate },
    { name := "build"
      options := selectionOptions ++ [choiceOption "mode" buildModes,
        { name := "trailing", repeats := true }, switch "no-defaults", switch "no-validate-required",
        switch "no-escape", switch "json"]
      read := readBuild },
    { name := "suggest", options := selectionOptions, read := readSuggest }]

end RequestForm

namespace Invocation

/-- The options that may stand before the command and after it. -/
def sharedOptions : List OptionForm :=
  [{ name := "log-level", value? := some (.oneOf ["error", "warn", "info", "debug", "trace"]) },
    { name := "config", value? := some .path }]

/-- Whether help is asked for by a command of its own, which may name a command. -/
def asksHelp (name : String) (rest : List String) : Bool :=
  name == "help" &&
    (rest.isEmpty || ("help" :: RequestForm.all.map (·.name)).any fun command => rest == [command])

/-- What the arguments ask for; nothing if it is help. The settings file that is named after the command
goes before the one named in front of it. An option that is pending in front of the command is checked
after the arguments of the command. -/
def ofArguments (arguments : List String) : Except UsageError (Option Invocation) := do
  let outer ← Arguments.scan { options := sharedOptions } true {} arguments
  if outer.help then return none
  match outer.operands with
  | [] => .error .missingCommand
  | name :: rest =>
    match RequestForm.all.find? (·.name == name) with
    | none => if asksHelp name rest then return none else .error (.unknownCommand name)
    | some form =>
      let forms := { options := form.options ++ sharedOptions, operand? := form.operand? }
      let inner ← Arguments.ofList forms rest
      if inner.help then return none
      let request ← form.read inner
      let outer ← outer.settled
      return some { settingsPath? := (inner.value? "config").or (outer.value? "config"), request }

/-- The paths that a run may read, those of names in directories apart. -/
def paths (i : Invocation) : List String :=
  i.settingsPath?.toList ++ match i.request with
    | .tokenize .. | .analyze (.line _) _ => []
    | .analyze (.definition path) _ | .classify path _ | .build path .. | .suggest path _ => [path]
    | .validate inputs _ => inputs

end Invocation

end ShellTemplate
