import ShellTemplate.Text.Blank

namespace ShellTemplate

/-- A name, which is not blank, before the first equals sign and a value after it. -/
def assignment? (written : String) : Option (String × String) := do
  let (name, value) ← Text.splitFirst? (· == '=') written.toList
  return (← Text.trimmed? (String.ofList name), String.ofList value)

/-- What the value of an option or an operand may be. -/
inductive ValueForm where
  | any
  | oneOf (names : List String)
  /-- At least one character. -/
  | path
  | assignment
deriving DecidableEq, Repr

namespace ValueForm

def accepts : ValueForm → String → Bool
  | .any, _ => true
  | .oneOf names, value => names.contains value
  | .path, value => !value.isEmpty
  | .assignment, value => (assignment? value).isSome

end ValueForm

/-- How an option of a command is given: as `--name value` or `--name=value`, or as `--name` alone. -/
structure OptionForm where
  name : String
  /-- What its value may be, if it takes one. -/
  value? : Option ValueForm := some .any
  /-- Whether it may be given several times. -/
  repeats : Bool := false
  /-- Whether a value that is an argument of its own may begin with a hyphen. -/
  anyValue : Bool := false
deriving DecidableEq, Repr

/-- What the arguments beside the options may be. -/
structure OperandForm where
  name : String
  value : ValueForm := .any
  /-- Whether there may be several. -/
  repeats : Bool := false
deriving DecidableEq, Repr

/-- The arguments that a command takes. -/
structure ArgumentForms where
  options : List OptionForm
  operand? : Option OperandForm := none
deriving DecidableEq, Repr

/-- The arguments of a command, sorted into options with their values and all else. -/
structure Arguments where
  options : List (String × String) := []
  operands : List String := []
  /-- The last option with its value as an argument of its own. It is checked when another argument of
  the command is read, or at the end. -/
  pending? : Option (OptionForm × String) := none
  /-- Help was asked for; what follows is not read. -/
  help : Bool := false
deriving DecidableEq, Repr

/-- Why arguments cannot be followed. -/
inductive UsageError where
  | unknownOption (argument : String)
  | missingValue (option : String)
  | unneededValue (option : String)
  | repeatedOption (option : String)
  | invalidValue (option value : String)
  | missingOption (option : String)
  | missingOperand (name : String)
  | unexpectedOperand (argument : String)
  | missingCommand
  | unknownCommand (name : String)
deriving DecidableEq, Repr

namespace UsageError

def message : UsageError → String
  | .unknownOption argument => s!"unexpected argument '{argument}'"
  | .missingValue option => s!"a value is required for '--{option}'"
  | .unneededValue option => s!"'--{option}' takes no value"
  | .repeatedOption option => s!"'--{option}' cannot be used several times"
  | .invalidValue option value => s!"invalid value '{value}' for '{option}'"
  | .missingOption option => s!"'--{option}' is required"
  | .missingOperand name => s!"{name} is required"
  | .unexpectedOperand argument => s!"unexpected argument '{argument}'"
  | .missingCommand => "a command is required"
  | .unknownCommand name => s!"unrecognized command '{name}'"

end UsageError

namespace Arguments

def values (a : Arguments) (option : String) : List String :=
  (a.options.filter fun (name, _) => name == option).map Prod.snd

def value? (a : Arguments) (option : String) : Option String :=
  (a.values option).head?

def has (a : Arguments) (option : String) : Bool :=
  (a.value? option).isSome

/-- Adds an option, which must not be there already unless it may repeat. -/
def addOption (a : Arguments) (form : OptionForm) (value : String) : Except UsageError Arguments :=
  if !form.repeats && a.has form.name then .error (.repeatedOption form.name)
  else if form.value?.all (·.accepts value) then
    .ok { a with options := a.options ++ [(form.name, value)] }
  else .error (.invalidValue form.name value)

def addOperand (form? : Option OperandForm) (a : Arguments) (operand : String) :
    Except UsageError Arguments :=
  match form? with
  | none => .error (.unexpectedOperand operand)
  | some form =>
    if !form.repeats && !a.operands.isEmpty then .error (.unexpectedOperand operand)
    else if form.value.accepts operand then .ok { a with operands := a.operands ++ [operand] }
    else .error (.invalidValue form.name operand)

/-- Adds the option that is pending. -/
def settled (a : Arguments) : Except UsageError Arguments :=
  match a.pending? with
  | none => .ok a
  | some (form, value) => { a with pending? := none }.addOption form value

/-- A hyphen with something after it begins an option. -/
def beginsOption (argument : String) : Bool :=
  match argument.toList with
  | '-' :: _ :: _ => true
  | _ => false

/-- The name and the value of an option that is written with an equals sign, or the name alone. -/
def nameAndValue (written : List Char) : String × Option String :=
  match Text.splitFirst? (· == '=') written with
  | some (name, value) => (String.ofList name, some (String.ofList value))
  | none => (String.ofList written, none)

def askHelp (a : Arguments) : Except UsageError Arguments :=
  a.settled.map ({ · with help := true })

/-- Reads arguments from left to right, after those that were read already. The first one that is wrong
decides, and nothing after a request for help is wrong. Two hyphens end the options; so does the first
operand, if the operands are a command with arguments of its own. -/
def scan (forms : ArgumentForms) (nested : Bool) (a : Arguments) :
    List String → Except UsageError Arguments
  | [] => .ok a
  | argument :: rest =>
    match argument.toList with
    | ['-', '-'] =>
      if nested then .ok { a with operands := argument :: rest }
      else a.settled.bind fun a => rest.foldlM (addOperand forms.operand?) a
    | '-' :: '-' :: written =>
      let (name, given?) := nameAndValue written
      match forms.options.find? (·.name == name) with
      | none => if name == "help" && given?.isNone then a.askHelp else .error (.unknownOption argument)
      | some form =>
        a.settled.bind fun a =>
          match form.value?, given? with
          | none, none => (a.addOption form "").bind fun a => scan forms nested a rest
          | none, some _ => .error (.unneededValue name)
          | some _, some value => (a.addOption form value).bind fun a => scan forms nested a rest
          | some _, none =>
            match rest with
            | [] => .error (.missingValue name)
            | value :: others =>
              if form.anyValue || !beginsOption value then
                scan forms nested { a with pending? := some (form, value) } others
              else .error (.missingValue name)
    | '-' :: 'h' :: _ => a.askHelp
    | '-' :: _ :: _ => .error (.unknownOption argument)
    | _ =>
      if nested then .ok { a with operands := argument :: rest }
      else
        a.settled.bind fun a =>
          (a.addOperand forms.operand? argument).bind fun a => scan forms nested a rest

/-- The arguments of a command without commands of its own. -/
def ofList (forms : ArgumentForms) (arguments : List String) : Except UsageError Arguments :=
  (scan forms false {} arguments).bind settled

def required (a : Arguments) (option : String) : Except UsageError String :=
  match a.value? option with
  | some value => .ok value
  | none => .error (.missingOption option)

/-- What the value of an option stands for, if it is given. -/
def choice {α : Type} (a : Arguments) (option : String) (known : List (String × α)) (absent : α) :
    α :=
  ((a.value? option).bind fun value => known.lookup value).getD absent

def assignments (a : Arguments) (option : String) : List (String × String) :=
  (a.values option).filterMap assignment?

end Arguments

end ShellTemplate
