import ShellTemplate.Check.Structure
import ShellTemplate.Classification
import ShellTemplate.Text.Lowercase

namespace ShellTemplate

/-- What is known when a definition is checked. Without categories nothing is asked of the category
beyond its name. -/
structure CreationContext where
  categories? : Option (List CategoryInfo) := none
  existing : List Definition := []
deriving DecidableEq

namespace Check

def nameMin : Nat := 2
def nameMax : Nat := 100
def descriptionMin : Nat := 5
def descriptionMax : Nat := 500
def commandMax : Nat := 2000
def categoryDepthMax : UInt8 := 4
def tagsMax : Nat := 10
def tagMax : Nat := 20
def parametersMax : Nat := 20
def parameterDescriptionMax : Nat := 200
def optionsMax : Nat := 50

/-- The category of deleted commands; nothing is created there. -/
def recycleBin : String := "recycle-bin"

/-- What is wrong with the length of a field, in characters. -/
def lengthIssue? (field value : String) (min max : Nat) : Option Issue :=
  if value.length = 0 then some (.missingField field)
  else if value.length < min then some (.tooShort field min)
  else if max < value.length then some (.tooLong field max)
  else none

def ofIssue? (issue? : Option Issue) (field : String) : Report :=
  match issue? with
  | some issue => .error issue (some field)
  | none => {}

/-- A letter, digit, underscore, hyphen or one of the common Chinese characters. -/
def isTagChar (c : Char) : Bool :=
  (0x4E00 ≤ c.toNat && c.toNat ≤ 0x9FA5) || Text.isNameChar c

def isNameText (cs : List Char) : Bool :=
  cs.all fun c => isTagChar c || Text.isBlank c || c == '(' || c == ')'

def name (d : Definition) : Report :=
  let name := Text.trim d.name
  ofIssue? ((lengthIssue? "name" name nameMin nameMax).or
    (if isNameText name.toList then none else some (.invalidCharacters "name"))) "name"

def description (d : Definition) : Report :=
  ofIssue? (lengthIssue? "description" (Text.trim d.description) descriptionMin descriptionMax)
    "description"

def command (d : Definition) : Report :=
  ofIssue? (lengthIssue? "command" (Text.trim d.command) 1 commandMax) "command"

/-- A category must be named and must not be the recycle bin; if the categories are known, it must be one
of them, by id or name, and not too deep. -/
def categoryIssue? (d : Definition) (context : CreationContext) : Option Issue :=
  let category := Text.trim (d.category?.getD "")
  if category.isEmpty then some (.missingField "category")
  else if category == recycleBin then some (.forbiddenCategory category)
  else
    match context.categories? with
    | none => none
    | some categories =>
      match categories.find? fun info => info.id == category || info.name == category with
      | none => some (.unknownCategory category)
      | some info =>
        if categoryDepthMax ≤ info.level then some (.categoryTooDeep category info.level) else none

def tooMany (field : String) (count max : Nat) : Report :=
  .guarded (max < count) (.error (.tooMany field max) (some field))

/-- Tags are compared without regard to case. -/
def tagList (seen : List String) : List String → Report
  | [] => {}
  | tag :: rest =>
    let folded := Text.lowercase tag
    (if tagMax < tag.length then .error (.tooLong ("tag " ++ tag) tagMax) (some "tags")
      else .guarded (tag.isEmpty || !tag.toList.all isTagChar) (.error (.invalidTag tag) (some "tags"))) ++
      .guarded (seen.contains folded) (.error (.duplicateTag tag) (some "tags")) ++
      tagList (folded :: seen) rest

def tags (d : Definition) : Report :=
  tooMany "tags" d.tags.length tagsMax ++ tagList [] d.tags

/-- What a condition refers to, if the definition does not declare it. -/
def danglingCondition? (d : Definition) : Option Condition → Option String
  | some (.option flag) => if (d.findOption? flag).isNone then some ("option " ++ flag) else none
  | some (.parameter name) => if (d.findParameter? name).isNone then some ("parameter " ++ name) else none
  | none => none

/-- Checks one parameter that has a name; `afterOptional` tells that an optional one came before. -/
def parameter (d : Definition) (afterOptional repeated : Bool) (p : Parameter) : Report :=
  let error (issue : Issue) : Report := .error issue (some "parameters")
  let warning (issue : Issue) : Report := .warning issue (some "parameters")
  let dangling (target : String) : Report := warning (.danglingReference p.name target)
  .guarded (!Text.isIdentifier p.name.toList) (error (.invalidParameterName p.name)) ++
    .guarded repeated (error (.duplicateParameter p.name)) ++
    (if Text.isBlankText p.description then warning (.missingDescription p.name)
      else .guarded (parameterDescriptionMax < p.description.length)
        (error (.tooLong ("description of " ++ p.name) parameterDescriptionMax))) ++
    .guarded (p.isRequired && afterOptional) (warning (.requiredAfterOptional p.name)) ++
    .guarded (p.isRequired && p.fallback?.isSome) (warning (.requiredWithDefault p.name)) ++
    .guarded (p.valueType == .choice && p.choices.isEmpty)
      (warning (.missingField ("enum values of " ++ p.name))) ++
    .guarded ((Classification.ofParameter p {}).category == .unknown)
      (warning (.unknownClassification p.name)) ++
    (match p.parentOption? with
      | some parent => .guarded (d.findOption? parent).isNone (dangling ("option " ++ parent))
      | none => {}) ++
    (match danglingCondition? d p.condition? with
      | some target => dangling target
      | none => {})

def parameterList (d : Definition) (afterOptional : Bool) (seen : List String) : List Parameter → Report
  | [] => {}
  | p :: rest =>
    if p.name.isEmpty then
      .error (.missingField "parameter name") (some "parameters") ++
        parameterList d afterOptional seen rest
    else
      parameter d afterOptional (seen.contains p.name) p ++
        parameterList d (afterOptional || !p.isRequired) (p.name :: seen) rest

def parameters (d : Definition) : Report :=
  tooMany "parameters" d.parameters.length parametersMax ++ parameterList d false [] d.parameters

def flags (seen : List String) : List String → Report
  | [] => {}
  | flag :: rest =>
    .guarded (!Text.isFlag flag.toList) (.error (.invalidFlag flag) (some "options")) ++
      .guarded (seen.contains flag) (.error (.duplicateFlag flag) (some "options")) ++
      flags (flag :: seen) rest

def optionDetails (d : Definition) (primary : String) (o : CommandOption) : Report :=
  .guarded (o.hasValue && o.valueType?.isNone) (.warning (.missingValueType primary) (some "options")) ++
    .concat ((o.conflictsWith ++ o.dependsOn).map fun target =>
      .guarded (d.findOption? target).isNone
        (.warning (.danglingReference primary ("option " ++ target)) (some "options")))

def optionList (d : Definition) (seen : List String) : List CommandOption → Report
  | [] => {}
  | o :: rest =>
    match o.primaryFlag? with
    | none => .error .missingFlag (some "options") ++ optionList d seen rest
    | some primary =>
      let spellings := Text.distinct o.spellings
      flags seen spellings ++ optionDetails d primary o ++ optionList d (spellings ++ seen) rest

def declaredOptions (d : Definition) : Report :=
  tooMany "options" d.options.length optionsMax ++ optionList d [] d.options

/-- Every placeholder needs a parameter, and every parameter that is no option's value should be used. -/
def placeholders (d : Definition) : Report :=
  let used := Placeholder.names d.command
  .concat ((strayRuns d.command).map fun run => adviseCommand (.malformedPlaceholder run)) ++
    .concat (used.map fun name =>
      .guarded (d.findParameter? name).isNone (inCommand (.undefinedPlaceholder name))) ++
    .concat (d.parameters.map fun p =>
      .guarded (!p.name.isEmpty && p.parentOption?.isNone && !used.contains p.name)
        (.warning (.unusedParameter p.name) (some "parameters")))

/-- Commands of the same name, in any case, or with the same template. A command does not repeat
itself. -/
def duplicates (d : Definition) (context : CreationContext) : Report :=
  let name := Text.lowercase (Text.trim d.name)
  let command := Text.trim d.command
  .concat (context.existing.map fun other =>
    .guarded (!(d.id?.isSome && other.id? == d.id?)) <|
      .guarded (!name.isEmpty && Text.lowercase (Text.trim other.name) == name)
        (.warning (.duplicateName (Text.trim d.name)) (some "name")) ++
      .guarded (!command.isEmpty && Text.trim other.command == command)
        (.warning (.duplicateCommand command) (some "command")))

end Check

/-- Checks a definition as its author wrote it. -/
def Definition.check (d : Definition) (context : CreationContext) : Report :=
  Check.name d ++ Check.description d ++ Check.command d ++
    Check.ofIssue? (Check.categoryIssue? d context) "category" ++ Check.tags d ++ Check.parameters d ++
    Check.declaredOptions d ++ Check.placeholders d ++ Check.duplicates d context

end ShellTemplate
