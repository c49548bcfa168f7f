import ShellTemplate.Invocation.Run
import Std.Time.Format

namespace ShellTemplate

/-- What stands at a path of the file system. -/
def entryAt (path : String) : IO Entry := do
  try
    let place ← IO.FS.realPath path
    if ← place.isDir then return .directory ((← place.readDir).toList.map (·.fileName))
    match String.fromUTF8? (← IO.FS.readBinFile path) with
    | some text => return .file text
    | none => return .binary
  catch
    | .noFileOrDirectory .. => return .missing .absent
    | .inappropriateType .. => return .missing .underFile
    | error => return .missing (.other (toString error))

/-- What stands at the paths, and at those of the names in directories. -/
def readFiles (paths : List String) : IO Files := do
  let mut entries : List (String × Entry) := []
  for path in paths do
    let entry ← entryAt path
    entries := (path, entry) :: entries
    if let .directory names := entry then
      for name in names do
        let inner := Path.join path name
        entries := (inner, ← entryAt inner) :: entries
  return fun path => (entries.lookup path).getD (.missing .absent)

/-- The present time, and an id made of random bytes. -/
def currentStamp : IO Stamp := do
  let moment := Std.Time.DateTime.ofTimestamp (← Std.Time.Timestamp.now) .UTC
  let bytes ← IO.getRandomBytes 16
  let digits := bytes.toList.flatMap fun byte =>
    [Json.hexDigit (byte.toNat / 16), Json.hexDigit (byte.toNat % 16)]
  return ⟨moment.toISO8601String, "cmd_" ++ String.ofList digits⟩

/-- The commands of the program with their options. -/
def usage : String :=
  "Usage: cmdtpl [OPTIONS] <COMMAND>\n\nCommands:\n" ++
    String.join (RequestForm.all.map fun form => "  " ++ form.name ++
      String.join (form.options.map fun option => " [--" ++ option.name ++ "]") ++ "\n") ++
    "\nOptions:\n" ++
    String.join (Invocation.sharedOptions.map fun option => "  --" ++ option.name ++ "\n")

end ShellTemplate

open ShellTemplate

def main (arguments : List String) : IO UInt32 := do
  match Invocation.ofArguments arguments with
  | .error error =>
    IO.eprintln ("error: " ++ error.message)
    return 2
  | .ok none =>
    IO.print usage
    return 0
  | .ok (some invocation) =>
    let outcome := invocation.run (← readFiles invocation.paths) (← currentStamp)
    IO.print outcome.output
    IO.eprint outcome.messages
    return outcome.code
