import ShellTemplate.Build
import ShellTemplate.Check.Structure
import ShellTemplate.Classifier

namespace ShellTemplate

namespace Check

def conditionHolds (d : Definition) (s : Selection) : Condition → Bool
  | .option flag => s.hasOption d flag
  | .parameter name => (s.value? name).isSome

/-- The given value, else the first default that is not empty: of the placeholders, then the declared
one. -/
def resolvedValue? (d : Definition) (s : Selection) (p : Parameter) : Option String :=
  (s.value? p.name).or <|
    if s.useDefaults then
      (((Placeholder.scan d.command).filter (·.name == p.name)).findSome? fun occurrence =>
        occurrence.inlineDefault?.filter fun value => !value.isEmpty).or p.fallback?
    else none

def enforcesValues (s : Selection) : Bool :=
  s.validateRequired && s.mode != .template

/-- Checks the value of one parameter. A parameter that is the value of an option matters only while
the option is selected. -/
def selectedParameter (d : Definition) (s : Selection) (p : Parameter) : StateM Classifier Report := do
  let active := p.condition?.any (conditionHolds d s)
  let value? := resolvedValue? d s p
  match p.parentOption? with
  | some parent =>
    if s.hasOption d parent && value?.isSome then Classifier.checkValue p value? {} active
    else return {}
  | none =>
    let classification ← Classifier.classify p {}
    match value? with
    | some value => Classifier.checkValue p (some value) {} active
    | none =>
      let needed := d.needsValue p || Classifier.needsValue classification.rules.mustHaveValue active
      return .guarded (needed && enforcesValues s)
        (.error (.missingRequiredValue p.name) (some p.name))

def selectedParameters (d : Definition) (s : Selection) : List Parameter → StateM Classifier Report
  | [] => return {}
  | p :: rest => do
    let first ← selectedParameter d s p
    return first ++ (← selectedParameters d s rest)

def inOptions (issue : Issue) : Report :=
  .error issue (some "options")

/-- Checks the value of a selected option. -/
def selectedValue (d : Definition) (s : Selection) (o : CommandOption) (spelling : String) : Report :=
  let bound? := d.optionParameter? o
  match Build.optionValue? s o bound? with
  | some value =>
    match o.valueType? with
    | some valueType =>
      Check.value spelling valueType ((bound?.map (·.choices)).getD []) value
    | none => {}
  | none => .guarded (enforcesValues s) (inOptions (.missingOptionValue spelling))

/-- Checks one option against the selection: its value, the options it excludes and those it needs. -/
def selectedOption (d : Definition) (s : Selection) (o : CommandOption) : Report :=
  match s.selectedSpelling? o with
  | none => .guarded o.required (inOptions (.requiredOptionNotSelected (o.primaryFlag?.getD "")))
  | some spelling =>
    .guarded o.hasValue (selectedValue d s o spelling) ++
      .concat (o.conflictsWith.map fun target =>
        .guarded (s.hasOption d target) (inOptions (.optionConflict spelling target))) ++
      .concat (o.dependsOn.map fun target =>
        .guarded (!s.hasOption d target) (inOptions (.missingDependency spelling target)))

/-- The placeholders of the template that no value fills, though they must be filled. -/
def unfilledOccurrences (d : Definition) (s : Selection) : List String :=
  ((Placeholder.scan d.command).filter fun p =>
    let parameter? := d.findParameter? p.name
    (Build.occurrenceValue? s p parameter?).isNone && p.mustBeFilled parameter?).map fun p =>
      String.ofList (Placeholder.written p.name p.kind)

/-- The values of selected options that are missing, shown as placeholders. -/
def unfilledOptions (d : Definition) (s : Selection) : List String :=
  let first := (Token.scan d.command).takeWhile fun t => !t.isControl
  (d.options.filter fun o =>
    o.hasValue && (s.selectedSpelling? o).isSome && !Build.isSpelledIn first o &&
      (Build.optionValue? s o (d.optionParameter? o)).isNone).map fun o =>
        Placeholder.shown (Build.valueName o (d.optionParameter? o)) true

/-- The required parameters that the template never mentions and that have no value. -/
def unfilledParameters (d : Definition) (s : Selection) : List String :=
  ((Build.unmentioned d).filter fun p =>
    p.isRequired && ((s.value? p.name).or (Build.fallback? s p)).isNone).map fun p =>
      Placeholder.shown p.name true

/-- The placeholders that a build leaves as they are, for lack of a value. They follow from the template,
so that braces inside values are never taken for them. -/
def leftovers (d : Definition) (s : Selection) : List String :=
  Text.distinct (unfilledOccurrences d s ++ unfilledOptions d s ++ unfilledParameters d s)

/-- The name of a parameter whose value was reported to be missing. -/
def reportedName? (d : Definition) : Issue → Option String
  | .missingRequiredValue name | .undefinedPlaceholder name => some name
  | .missingOptionValue flag =>
    (d.findOption? flag).map fun o => Build.valueName o (d.optionParameter? o)
  | _ => none

/-- Checks what a build makes when no value is enforced; `found` is what was reported before. -/
def executable (d : Definition) (s : Selection) (found : Report) : Except BuildError Report := do
  match ← d.build { s with validateRequired := false } with
  | none => return {}
  | some built =>
    let reported := found.errors.filterMap fun diagnostic => reportedName? d diagnostic.issue
    let unfilled := (leftovers d s).filter fun run =>
      !(Placeholder.ofText? run).any fun p => reported.contains p.name
    return .concat (unfilled.map fun run => inCommand (.unsubstitutedPlaceholder run)) ++
      (Structure.ofCommand built).check false true

end Check

/-- Checks a selection against its definition. A selection that names what the definition does not
declare cannot be checked. -/
def Definition.checkBuildWith (d : Definition) (s : Selection) :
    ExceptT BuildError (StateM Classifier) Report := do
  Build.checkReferences d s
  let undefined : Report := .concat ((Placeholder.names d.command).map fun name =>
    .guarded (d.findParameter? name).isNone (Check.inCommand (.undefinedPlaceholder name)))
  let parameters ← Check.selectedParameters d s d.parameters
  let found := undefined ++ parameters ++ .concat (d.options.map (Check.selectedOption d s))
  if s.mode == .executable then return found ++ (← Check.executable d s found) else return found

/-- Checks a selection with a classifier of its own. -/
def Definition.checkBuild (d : Definition) (s : Selection) : Except BuildError Report :=
  ((d.checkBuildWith s).run.run .standard).1

end ShellTemplate
