import ShellTemplate.Report
import ShellTemplate.Structure
import ShellTemplate.Text.WordChar

namespace ShellTemplate

/-- How risky a command is; the levels rise. -/
inductive Risk where
  | none
  | low
  | medium
  | high
deriving DecidableEq, Repr, Inhabited

namespace Risk

def name : Risk → String
  | .none => "none"
  | .low => "low"
  | .medium => "medium"
  | .high => "high"

def rank : Risk → Nat
  | .none => 0
  | .low => 1
  | .medium => 2
  | .high => 3

def max (a b : Risk) : Risk :=
  if a.rank < b.rank then b else a

def ofIssue : Issue → Risk
  | .injectionPattern _ => .high
  | .destructiveCommand _ => .medium
  | _ => .low

end Risk

/-- Security findings with the highest risk among them. -/
structure SecurityReport where
  risk : Risk
  findings : List Diagnostic
deriving DecidableEq, Repr

namespace Security

/-- Whether the property holds of the characters from some place on. -/
def somewhere (p : List Char → Bool) : List Char → Bool
  | [] => p []
  | c :: rest => p (c :: rest) || somewhere p rest

/-- A semicolon, then `rm` with a letter option that holds `r` or `f`. -/
def beginsRemoval : List Char → Bool
  | ';' :: rest =>
    match rest.dropWhile Text.isBlank with
    | 'r' :: 'm' :: c :: rest =>
      Text.isBlank c &&
        match rest.dropWhile Text.isBlank with
        | '-' :: letters => (letters.takeWhile Char.isAlpha).any fun c => c == 'r' || c == 'f'
        | _ => false
    | _ => false
  | _ => false

def beginsSubstitution : List Char → Bool
  | '$' :: '(' :: rest => rest.contains ')'
  | _ => false

def beginsBackticks : List Char → Bool
  | '\x60' :: rest => rest.contains '\x60'
  | _ => false

/-- A pipe into a shell whose name ends there. -/
def beginsShellPipe : List Char → Bool
  | '|' :: rest =>
    let word := rest.dropWhile Text.isBlank
    ["sh", "bash", "zsh", "dash"].any fun shell =>
      shell.toList.isPrefixOf word && !(word.drop shell.length).head?.any Text.isWordChar
  | _ => false

/-- The patterns of injected commands, each with its description. -/
def injections : List ((List Char → Bool) × String) :=
  [(beginsRemoval, "sequence into rm -rf"), (beginsSubstitution, "command substitution $(...)"),
    (beginsBackticks, "backtick command substitution"), (beginsShellPipe, "output piped into a shell")]

def isDestructive (command : String) : Bool :=
  ["rm", "del", "format", "fdisk", "mkfs", "dd", "shred"].contains command ||
    "mkfs.".toList.isPrefixOf command.toList

def isPrivileged (command : String) : Bool :=
  ["sudo", "su", "doas"].contains command

def destructive (command : String) : Report :=
  .guarded (isDestructive command) (.warning (.destructiveCommand command) (some "command"))

/-- After a command that raises privileges, the first argument is the command that counts. -/
def component (c : Component) : Report :=
  match c.baseCommand? with
  | none => {}
  | some base =>
    if isPrivileged base.value then
      .warning (.privilegeEscalation base.value) (some "command") ++
        match c.arguments with
        | [] => {}
        | elevated :: _ => destructive elevated.value
    else destructive base.value

/-- Warnings about a command line and its structure. -/
def scan (command : String) (s : Structure) : Report :=
  .concat (injections.map fun (begins, description) =>
    .guarded (somewhere begins command.toList)
      (.warning (.injectionPattern description) (some "command"))) ++
  .concat (s.components.map component)

end Security

namespace SecurityReport

def assess (command : String) (s : Structure) : SecurityReport :=
  let findings := (Security.scan command s).warnings
  ⟨findings.foldl (fun risk d => risk.max (.ofIssue d.issue)) .none, findings⟩

def isClean (r : SecurityReport) : Bool :=
  r.findings.isEmpty

def toJson (r : SecurityReport) : Json :=
  .object [("risk", .text r.risk.name), ("findings", Report.diagnosticsToJson r.findings)]

end SecurityReport

end ShellTemplate
