import ShellTemplate.Analysis
import ShellTemplate.Check.Build
import ShellTemplate.Check.Definition
import ShellTemplate.Definition.Normalize
import ShellTemplate.Session.History
import ShellTemplate.Settings
import ShellTemplate.Suggestion

namespace ShellTemplate

/-- The commands that one user works on: how it is worked, and what is remembered. -/
structure Session where
  settings : Settings
  classifier : Classifier
  history : History

/-- What is known when a session is asked for something. -/
structure SessionContext where
  creation : CreationContext := {}
  /-- The command as it is stored; without it the newest version in the history counts. -/
  current? : Option Definition := none
  allowSystem : Bool := false

/-- The time of a request and an id that no command has. -/
structure Stamp where
  moment : String
  freshId : String
deriving DecidableEq, Repr

/-- A field whose value an update changed; null stands for an absent value. -/
structure FieldChange where
  field : String
  before : Json
  after : Json
deriving DecidableEq

/-- What observers are told. -/
inductive Event where
  | created (command : Definition)
  | updated (before after : Definition) (changes : List FieldChange)
  | built (command : Definition) (mode : BuildMode) (result? : Option String) (success : Bool)
deriving DecidableEq

structure CreateOutcome where
  success : Bool
  command? : Option Definition := none
  report : Report
  analysis : Analysis
deriving DecidableEq

structure UpdateOutcome where
  success : Bool
  command? : Option Definition := none
  report : Report
  changes : List FieldChange := []
deriving DecidableEq

structure BuildOutcome where
  success : Bool
  /-- What was built in the mode of the selection. -/
  built? : Option String
  /-- The template of the same selection. -/
  template? : Option String
  report : Report
  moment : String
  mode : BuildMode
  parameterCount : Nat
  optionCount : Nat
  hasRequiredParameters : Bool
deriving DecidableEq

structure AnalysisOutcome where
  analysis : Analysis
  definition? : Option Report
  suggestions : List String
deriving DecidableEq

namespace FieldChange

def toJson (c : FieldChange) : Json :=
  .object [("field", .text c.field), ("from", c.before), ("to", c.after)]

end FieldChange

namespace CreateOutcome

def toJson (o : CreateOutcome) : Json :=
  .object ([("success", .boolean o.success)] ++ Json.memberIf "command" Definition.toJson o.command? ++
    [("validation", o.report.toJson), ("analysis", o.analysis.toJson)])

end CreateOutcome

namespace UpdateOutcome

def toJson (o : UpdateOutcome) : Json :=
  .object ([("success", .boolean o.success)] ++ Json.memberIf "command" Definition.toJson o.command? ++
    [("validation", o.report.toJson), ("changes", .array (o.changes.map FieldChange.toJson))])

end UpdateOutcome

namespace BuildOutcome

def toJson (o : BuildOutcome) : Json :=
  .object ([("success", .boolean o.success)] ++ Json.memberIf "built_command" .text o.built? ++
    Json.memberIf "template" .text o.template? ++
    [("validation", o.report.toJson),
      ("metadata", .object [("build_time", .text o.moment), ("build_mode", .text o.mode.name),
        ("parameter_count", .integer o.parameterCount), ("option_count", .integer o.optionCount),
        ("has_required_params", .boolean o.hasRequiredParameters)])])

end BuildOutcome

namespace AnalysisOutcome

def toJson (o : AnalysisOutcome) : Json :=
  .object ([("success", .boolean true), ("analysis", o.analysis.toJson)] ++
    Json.memberIf "definition" Report.toJson o.definition? ++
    [("suggestions", textsToJson o.suggestions)])

end AnalysisOutcome

namespace Definition

/-- The members by key. -/
def fields (d : Definition) : SortedList (String × Json) Prod.fst :=
  .ofList d.members

/-- The definition with an id, if it has none, with the time and the next version number. -/
def stamped (d : Definition) (stamp : Stamp) : Definition :=
  { d with
    id? := some ((d.id?.filter fun id => !id.isEmpty).getD stamp.freshId)
    createdAt? := some (d.createdAt?.getD stamp.moment)
    updatedAt? := some stamp.moment
    version := d.version + 1 }

/-- The fields that no user may set. -/
def protectedFields : List String :=
  ["id", "createdAt", "isUserCreated"]

/-- The fields that an update may change. -/
def updatableFields : List String :=
  ["name", "description", "command", "category", "tags", "parameters", "options", "commonCommands"]

end Definition

namespace Session

def ofSettings (settings : Settings) : Session where
  settings
  classifier := .standard
  history := { capacity := settings.historyVersions }

/-- Security is checked only if the settings say so too. -/
def analysisOptions (s : Session) (options : AnalysisOptions) : AnalysisOptions :=
  { options with security := options.security && s.settings.security }

/-- What is to be said about a new definition and its template, security apart. -/
def creationReport (s : Session) (d : Definition) (analysis : Analysis) (context : SessionContext) :
    Report :=
  let found := Report.guarded s.settings.validation (d.check context.creation) ++ analysis.report
  if s.settings.strict then found.escalate else found

/-- Checks, stamps and records a new definition. Security findings are warnings that strictness does not
turn into errors. -/
def create (s : Session) (context : SessionContext) (stamp : Stamp) (d : Definition) :
    CreateOutcome × Option Event × Session :=
  let d := d.normalized
  let analysis := Analysis.ofCommand d.command (s.analysisOptions {})
  let found := s.creationReport d analysis context
  let report := found ++ { warnings := (analysis.security?.map (·.findings)).getD [] }
  if report.isValid then
    let command := { d.stamped stamp with isUserCreated? := some true }
    let history :=
      if s.settings.autoSave then
        s.history.recordVersion (command.id?.getD "") ⟨command, .created, stamp.moment⟩
      else s.history
    ({ success := true, command? := some command, report, analysis }, some (.created command),
      { s with history })
  else ({ success := false, report, analysis }, none, s)

/-- The protected fields that an update gives another value. -/
def protectedReport (current : Definition) (updates : List (String × Json)) : Report :=
  .concat (updates.map fun (field, value) =>
    .guarded (Definition.protectedFields.contains field &&
        (current.fields.toList.lookup field).getD .null != value)
      (.error (.protectedField field) (some field)))

/-- Warnings about fields of an update that do not matter. -/
def ignoredReport (updates : List (String × Json)) : Report :=
  .concat (updates.map fun (field, _) =>
    .guarded (!Definition.updatableFields.contains field && !Definition.protectedFields.contains field)
      (.warning (.nonUpdatableField field) (some field)))

/-- The fields of the current version with the updatable ones of an update in their place. -/
def mergedFields (current : Definition) (updates : List (String × Json)) :
    SortedList (String × Json) Prod.fst :=
  (updates.filter fun (field, _) => Definition.updatableFields.contains field).foldl
    SortedList.insert current.fields

/-- The fields whose values differ: first those that there are afterwards, then those that are gone. -/
def changes (current updated : Definition) : List FieldChange :=
  let before := current.fields.toList
  let after := updated.fields.toList
  (after.filterMap fun (field, value) =>
    let old := (before.lookup field).getD .null
    if old = value then none else some ⟨field, old, value⟩) ++
  before.filterMap fun (field, value) =>
    if (after.lookup field).isSome then none else some ⟨field, value, .null⟩

/-- The findings about an updated definition. Strictness does not concern fields that do not matter. -/
def updateReport (s : Session) (d : Definition) (context : SessionContext) : Report :=
  let found := Report.guarded s.settings.validation (d.check context.creation)
  if s.settings.strict then found.escalate else found

/-- An update that stops at a report. -/
def rejected (report : Report) : UpdateOutcome :=
  { success := false, report }

/-- The updated definition before it is stamped, with what was found, or the findings that stop it. -/
def revise (s : Session) (context : SessionContext) (current : Definition)
    (updates : List (String × Json)) : Except Report (Definition × Report) :=
  let guarded := protectedReport current updates
  if !guarded.isValid then .error guarded
  else
    let ignored := ignoredReport updates
    match Definition.record.ofMembers false (mergedFields current updates).toList with
    | .error e => .error (ignored ++ .error (.failure e.message) (some "general"))
    | .ok merged =>
      let merged := merged.normalized
      let report := ignored ++ s.updateReport merged context
      if report.isValid then .ok (merged, report) else .error report

/-- The command that an update starts from, or why it cannot start. -/
def updateBase (s : Session) (context : SessionContext) (id : String) : Except Report Definition :=
  match context.current?.or (s.history.latestCommand? id) with
  | none => .error (.error (.commandNotFound id) (some "id"))
  | some current =>
    if current.isSystem && !(s.settings.systemModification || context.allowSystem) then
      .error (.error (.systemCommand id) (some "isUserCreated"))
    else .ok current

/-- Changes the fields of a command. The version before the update is always recorded, the one after
it if versions are saved. -/
def update (s : Session) (context : SessionContext) (stamp : Stamp) (id : String)
    (updates : List (String × Json)) : UpdateOutcome × Option Event × Session :=
  match s.updateBase context id with
  | .error report => (rejected report, none, s)
  | .ok current =>
    match s.revise context current updates with
    | .error report => (rejected report, none, s)
    | .ok (merged, report) =>
      let changes := changes current merged
      let updated := merged.stamped stamp
      let before := s.history.recordVersion id ⟨current, .beforeUpdate, stamp.moment⟩
      let history :=
        if s.settings.autoSave then before.recordVersion id ⟨updated, .updated, stamp.moment⟩ else before
      ({ success := true, command? := some updated, report, changes },
        some (.updated current updated changes), { s with history })

/-- A build that cannot be done is an error by itself only if no other error was found. -/
def withBuild (report : Report) : Except BuildError (Option String) → Report × Option String
  | .ok built? => (report, built?)
  | .error e =>
    (report ++ .guarded report.isValid (.error (.failure e.message) (some "general")), none)

/-- The findings about a selection, and the classifier afterwards. -/
def buildReport (s : Session) (d : Definition) (selection : Selection) : Report × Classifier :=
  if s.settings.validation then
    match (d.checkBuildWith selection).run.run s.classifier with
    | (.ok report, classifier) => (report, classifier)
    | (.error e, classifier) => (.error (.failure e.message) (some "general"), classifier)
  else ({}, s.classifier)

/-- Checks a selection and builds the command, its template too. The build is recorded if the command
has an id. -/
def build (s : Session) (stamp : Stamp) (d : Definition) (selection : Selection) :
    BuildOutcome × Event × Session :=
  let (found, classifier) := s.buildReport d selection
  let (found, template?) := withBuild found (d.build { selection with mode := .template })
  let (report, built?) : Report × Option String :=
    match selection.mode with
    | .template => (found, template?)
    | .validation => (found, none)
    | .executable => withBuild found (d.build selection)
  let success := report.isValid
  let history :=
    match d.id? with
    | some id => s.history.recordBuild id ⟨selection, built?, success, stamp.moment⟩
    | none => s.history
  ({ success, built?, template?, report, moment := stamp.moment, mode := selection.mode
     parameterCount := selection.parameterValues.toList.length
     optionCount := selection.options.toList.length
     hasRequiredParameters := d.parameters.any (·.isRequired) },
    .built d selection.mode built? success, { s with classifier, history })

/-- All that can be told about a command line and, if there is one, its definition. -/
def analyze (s : Session) (context : SessionContext) (command : String)
    (definition? : Option Definition) (options : AnalysisOptions) : AnalysisOutcome :=
  let analysis := Analysis.ofCommand command (s.analysisOptions options)
  let checked? := if s.settings.validation then definition?.map (·.check context.creation) else none
  let hints := (checked?.map fun report => report.warnings ++ report.suggestions).getD []
  { analysis
    definition? := checked?
    suggestions :=
      if s.settings.suggestions then Text.distinct (analysis.hints ++ hints.map (·.message)) else [] }

/-- Forgets history; forgetting all of it forgets the classifications too. -/
def clear (s : Session) (id? : Option String) (kind : HistoryKind) : Session :=
  { s with
    history := s.history.clear id? kind
    classifier := if id?.isNone && kind == .all then s.classifier.clear else s.classifier }

end Session

end ShellTemplate
