import ShellTemplate.Issue

namespace ShellTemplate

inductive Severity where
  | error
  | warning
  | suggestion
deriving DecidableEq, Repr, Inhabited

/-- A reported problem with the field or place that it concerns. -/
structure Diagnostic where
  severity : Severity
  category : IssueCategory
  field? : Option String
  issue : Issue
  message : String
deriving DecidableEq, Repr

/-- What a check found, by severity. Reports are put together with `++`. -/
structure Report where
  errors : List Diagnostic := []
  warnings : List Diagnostic := []
  suggestions : List Diagnostic := []
deriving DecidableEq, Repr, Inhabited

namespace Severity

def all : List Severity :=
  [.error, .warning, .suggestion]

def name : Severity → String
  | .error => "error"
  | .warning => "warning"
  | .suggestion => "suggestion"

def decoder : Decoder Severity :=
  .choice (all.map fun severity => (severity.name, severity))

end Severity

namespace Diagnostic

def ofIssue (severity : Severity) (issue : Issue) (field? : Option String) : Diagnostic :=
  ⟨severity, issue.category, field?, issue, issue.message⟩

def toJson (d : Diagnostic) : Json :=
  .object ([("severity", .text d.severity.name), ("category", .text d.category.name)] ++
    Json.memberIf "field" .text d.field? ++
    [("issue", d.issue.toJson), ("message", .text d.message)])

def record : Record Diagnostic :=
  mk <$> .required "severity" Severity.decoder <*> .required "category" IssueCategory.decoder
    <*> .optional "field" Decoder.text <*> .required "issue" Issue.decoder
    <*> .required "message" Decoder.text

def decoder : Decoder Diagnostic :=
  record.decode "struct Diagnostic"

end Diagnostic

namespace Report

/-- All findings of the first report come before those of the second. -/
def append (a b : Report) : Report :=
  ⟨a.errors ++ b.errors, a.warnings ++ b.warnings, a.suggestions ++ b.suggestions⟩

instance : Append Report := ⟨append⟩

@[simp] theorem errors_append (a b : Report) : (a ++ b).errors = a.errors ++ b.errors := rfl

@[simp] theorem warnings_append (a b : Report) : (a ++ b).warnings = a.warnings ++ b.warnings := rfl

@[simp] theorem suggestions_append (a b : Report) :
    (a ++ b).suggestions = a.suggestions ++ b.suggestions := rfl

def error (issue : Issue) (field? : Option String) : Report :=
  { errors := [.ofIssue .error issue field?] }

def warning (issue : Issue) (field? : Option String) : Report :=
  { warnings := [.ofIssue .warning issue field?] }

def suggestion (issue : Issue) (field? : Option String) : Report :=
  { suggestions := [.ofIssue .suggestion issue field?] }

/-- The reports one after the other. -/
def concat (reports : List Report) : Report :=
  reports.foldr append {}

/-- The report if the condition holds, else an empty one. -/
def guarded (condition : Bool) (report : Report) : Report :=
  if condition then report else {}

def isValid (r : Report) : Bool :=
  r.errors.isEmpty

/-- Every finding, errors first and suggestions last. -/
def diagnostics (r : Report) : List Diagnostic :=
  r.errors ++ r.warnings ++ r.suggestions

/-- Warnings count as errors. -/
def escalate (r : Report) : Report :=
  { r with
    errors := r.errors ++ r.warnings.map fun d => { d with severity := .error }
    warnings := [] }

def hasError (r : Report) (p : Issue → Bool) : Bool :=
  r.errors.any fun d => p d.issue

def hasWarning (r : Report) (p : Issue → Bool) : Bool :=
  r.warnings.any fun d => p d.issue

def diagnosticsToJson (ds : List Diagnostic) : Json :=
  .array (ds.map Diagnostic.toJson)

def toJson (r : Report) : Json :=
  .object [("errors", diagnosticsToJson r.errors), ("warnings", diagnosticsToJson r.warnings),
    ("suggestions", diagnosticsToJson r.suggestions)]

def record : Record Report :=
  mk <$> .required "errors" (.items Diagnostic.decoder) <*> .required "warnings" (.items Diagnostic.decoder)
    <*> .required "suggestions" (.items Diagnostic.decoder)

def decoder : Decoder Report :=
  record.decode "struct ValidationResult"

end Report

end ShellTemplate
