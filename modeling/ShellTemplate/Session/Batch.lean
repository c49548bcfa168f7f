import ShellTemplate.Files
import ShellTemplate.Session

namespace ShellTemplate

/-- What a session says about the definition in a file. -/
structure FileReport where
  path : String
  valid : Bool
  errors : List String
  warnings : List String := []
deriving DecidableEq, Repr

namespace FileReport

/-- A file without a definition in it. -/
def ofError (path : String) (error : DefinitionFileError) : FileReport :=
  { path, valid := false, errors := [error.message path] }

def ofOutcome (path : String) (o : CreateOutcome) : FileReport where
  path
  valid := o.success
  errors := o.report.errors.map (·.message)
  warnings := o.report.warnings.map (·.message)

def toJson (r : FileReport) : Json :=
  .object [("path", .text r.path), ("valid", .boolean r.valid), ("errors", textsToJson r.errors),
    ("warnings", textsToJson r.warnings)]

/-- A line for the file and one for each warning. -/
def lines (r : FileReport) : List String :=
  (if r.valid then "ok      " ++ r.path
    else "invalid " ++ r.path ++ ": " ++ "; ".intercalate r.errors) ::
  r.warnings.map ("        warning: " ++ ·)

end FileReport

namespace Session

/-- Creates the definition in a file, which is known to the session afterwards. -/
def checkFile (s : Session) (stamp : Stamp) (files : Files) (path : String) : FileReport × Session :=
  match files.definition path with
  | .error error => (.ofError path error, s)
  | .ok d =>
    let (outcome, _, s) := s.create {} stamp d
    (.ofOutcome path outcome, s)

/-- Creates the definitions in files, one after the other, each with a stamp of its own. -/
def checkFiles (s : Session) (files : Files) : List (String × Stamp) → List FileReport × Session
  | [] => ([], s)
  | (path, stamp) :: rest =>
    let (report, s) := s.checkFile stamp files path
    let (reports, s) := s.checkFiles files rest
    (report :: reports, s)

end Session

end ShellTemplate
