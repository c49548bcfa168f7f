import ShellTemplate.Json.Shortest
import ShellTemplate.Selection
import ShellTemplate.Session.Recent

namespace ShellTemplate

inductive VersionAction where
  | created
  | beforeUpdate
  | updated
deriving DecidableEq, Repr

/-- A command as it was when something was done to it. -/
structure VersionRecord where
  command : Definition
  action : VersionAction
  timestamp : String
deriving DecidableEq

/-- A build of a command. -/
structure BuildRecord where
  selection : Selection
  result? : Option String
  success : Bool
  timestamp : String
deriving DecidableEq

/-- What is to be forgotten. -/
inductive HistoryKind where
  | command
  | build
  | all
deriving DecidableEq, Repr

/-- Recent entries by command id. -/
abbrev Timeline (α : Type) := SortedList (String × Recent α) Prod.fst

/-- The recent versions and builds of each command. -/
structure History where
  capacity : Nat
  versions : Timeline VersionRecord := {}
  builds : Timeline BuildRecord := {}

namespace VersionAction

def name : VersionAction → String
  | .created => "created"
  | .beforeUpdate => "before_update"
  | .updated => "updated"

end VersionAction

namespace VersionRecord

def toJson (r : VersionRecord) : Json :=
  .object [("command", r.command.toJson), ("action", .text r.action.name),
    ("timestamp", .text r.timestamp)]

end VersionRecord

namespace BuildRecord

def toJson (r : BuildRecord) : Json :=
  .object [("config", r.selection.toJson), ("result", (r.result?.map Json.text).getD .null),
    ("success", .boolean r.success), ("timestamp", .text r.timestamp)]

end BuildRecord

namespace HistoryKind

def coversVersions (kind : HistoryKind) : Bool :=
  kind != .build

def coversBuilds (kind : HistoryKind) : Bool :=
  kind != .command

def decoder : Decoder HistoryKind :=
  .choice [("command", .command), ("build", .build), ("all", .all)]

end HistoryKind

namespace Timeline

variable {α : Type}

def entries (t : Timeline α) (id : String) : List α :=
  ((t.toList.lookup id).map (·.entries)).getD []

def push (t : Timeline α) (capacity : Nat) (id : String) (entry : α) : Timeline α :=
  t.insert (id, ((t.toList.lookup id).getD (.ofCapacity capacity)).push entry)

/-- Forgets one command, or all of them. -/
def clear (t : Timeline α) : Option String → Timeline α
  | some id => ⟨t.toList.filter fun entry => entry.1 != id, t.ordered.filter _⟩
  | none => {}

def total (t : Timeline α) : Nat :=
  t.toList.foldr (fun entry count => entry.2.size + count) 0

end Timeline

namespace History

def recordVersion (h : History) (id : String) (record : VersionRecord) : History :=
  { h with versions := Timeline.push h.versions h.capacity id record }

def recordBuild (h : History) (id : String) (record : BuildRecord) : History :=
  { h with builds := Timeline.push h.builds h.capacity id record }

/-- The command of the newest version. -/
def latestCommand? (h : History) (id : String) : Option Definition :=
  (Timeline.entries h.versions id).getLast?.map (·.command)

def clear (h : History) (id? : Option String) (kind : HistoryKind) : History :=
  { h with
    versions := if kind.coversVersions then Timeline.clear h.versions id? else h.versions
    builds := if kind.coversBuilds then Timeline.clear h.builds id? else h.builds }

def totalCommands (h : History) : Nat :=
  h.versions.toList.length

def totalBuilds (h : History) : Nat :=
  Timeline.total h.builds

/-- Zero if there are no commands. -/
def averageBuilds (h : History) : Float :=
  if h.totalCommands = 0 then 0.0 else h.totalBuilds.toFloat / h.totalCommands.toFloat

def statisticsToJson (h : History) : Json :=
  .object [("total_commands", .integer h.totalCommands), ("total_builds", .integer h.totalBuilds),
    ("average_builds_per_command", .decimal (.ofFloat h.averageBuilds))]

end History

end ShellTemplate
