import ShellTemplate.Invocation
import ShellTemplate.Json.Printer
import ShellTemplate.Session.Batch

namespace ShellTemplate

/-- What a run of the program says. -/
structure Outcome where
  /-- The texts that are printed, each with a line end after it. -/
  printed : List String := []
  warnings : List String := []
  /-- What the run fails with. -/
  error? : Option String := none
deriving DecidableEq, Repr

namespace Outcome

/-- The exit code. -/
def code (o : Outcome) : UInt32 :=
  if o.error?.isSome then 1 else 0

def output (o : Outcome) : String :=
  String.join (o.printed.map (· ++ "\n"))

def messages (o : Outcome) : String :=
  String.join (o.warnings.map ("warning: " ++ · ++ "\n") ++
    o.error?.toList.map ("error: " ++ · ++ "\n"))

def failure (message : String) : Outcome :=
  { error? := some message }

def ofJson (json : Json) : Outcome :=
  { printed := [json.pretty 0] }

def ofTokens (tokens : List Token) : TokenFormat → Outcome
  | .json => ofJson (tokensToJson tokens)
  | .text => { printed := tokens.map fun t => t.kind.name ++ "\t" ++ t.text }

/-- The reports on files; an invalid file makes the run fail. -/
def ofReports (reports : List FileReport) (json : Bool) : Outcome :=
  let invalid := reports.countP (!·.valid)
  { printed :=
      if json then [(Json.array (reports.map FileReport.toJson)).pretty 0]
      else reports.flatMap FileReport.lines ++
        [s!"Validated {reports.length} definition file(s), {invalid} invalid."]
    error? :=
      if invalid = 0 then none else some s!"{invalid} definition file(s) failed validation" }

/-- A build. As text only a success is printed, and warnings stand apart. -/
def ofBuild (name : String) (o : BuildOutcome) (json : Bool) : Outcome :=
  let error? :=
    if o.success then none else some ("; ".intercalate (o.report.errors.map (·.message)))
  if json then { printed := [o.toJson.pretty 0], error? }
  else
    { printed :=
        if o.success then [o.built?.getD s!"Definition '{name}' is valid for this selection."] else []
      warnings := o.report.warnings.map (·.message)
      error? }

end Outcome

namespace Stamp

/-- A stamp of the same time with an id of its own. -/
def numbered (stamp : Stamp) (n : Nat) : Stamp :=
  { stamp with freshId := stamp.freshId ++ "_" ++ toString n }

end Stamp

namespace Request

/-- Goes on with the definition in a file. -/
def withDefinition (files : Files) (path : String) (next : Definition → Outcome) : Outcome :=
  match files.definition path with
  | .ok d => next d
  | .error error => .failure (error.message path)

/-- Each parameter with its classification. -/
def classifications (d : Definition) (context : ClassificationContext) : Json :=
  .array (d.parameters.map fun p =>
    .object [("parameter", .text p.name),
      ("classification", (Classification.ofParameter p context).toJson)])

def run (files : Files) (s : Session) (stamp : Stamp) : Request → Outcome
  | .tokenize command format => .ofTokens (Token.scan command) format
  | .analyze (.line command) options => .ofJson (s.analyze {} command none options).toJson
  | .analyze (.definition path) options =>
    withDefinition files path fun d => .ofJson (s.analyze {} d.command (some d) options).toJson
  | .classify path subcommand? =>
    withDefinition files path fun d => .ofJson (classifications d ⟨subcommand?⟩)
  | .validate inputs json =>
    match files.collect inputs with
    | .error error => .failure error.message
    | .ok paths =>
      let stamped := paths.zipIdx.map fun (path, n) => (path, stamp.numbered n)
      .ofReports (s.checkFiles files stamped).1 json
  | .build path selection json =>
    withDefinition files path fun d => .ofBuild d.name (s.build stamp d selection).1 json
  | .suggest path selection =>
    withDefinition files path fun d => .ofJson (Suggestions.ofSelection d selection).toJson

end Request

namespace Invocation

def settings (i : Invocation) (files : Files) : Except String Settings :=
  match i.settingsPath? with
  | none => .ok {}
  | some path => (files.settings path).mapError (·.message path)

/-- Does what is asked for in a new session. -/
def run (files : Files) (stamp : Stamp) (i : Invocation) : Outcome :=
  match i.settings files with
  | .error message => .failure message
  | .ok settings => i.request.run files (.ofSettings settings) stamp

end Invocation

end ShellTemplate
