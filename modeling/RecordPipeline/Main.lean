import RecordPipeline.CommandLine.Run
import RecordPipeline.Moment.Civil
import Std.Time.DateTime
set_option autoImplicit false

namespace RecordPipeline.Main

def variableNames : List String :=
  ["PIPELINE_NAME", "ENFORCE_PLUGIN_VERSIONS", "DEAD_LETTER_ENABLED", "FIELD_MAPPINGS", "LOG_LEVEL",
   "LOG_DIR", "LOG_MAX_SIZE", "LOG_BACKUP_COUNT", "ENVIRONMENT"]

def readEnvironment : IO Environment :=
  variableNames.filterMapM fun name => return (← IO.getEnv name).map fun v => (name, v)

def readClock : IO Moment := do
  let nanoseconds := (← Std.Time.Timestamp.now).toNanosecondsSinceUnixEpoch.val
  let microsecond := (nanoseconds.fmod 1000000000).toNat / 1000
  return ((CivilTime.ofUnix (nanoseconds.fdiv 1000000000)).toMoment? microsecond).getD default

def drawId : IO String := do
  let bytes ← IO.getRandomBytes 4
  return String.ofList (bytes.toList.flatMap fun b => Text.hex 2 b.toNat)

def readFile? (path : String) : IO (Option String) :=
  try return some (← IO.FS.readFile path) catch _ => return none

def look (path : String) : IO CommandLine.Found := do
  try return .file (← IO.FS.readFile (CommandLine.Path.ofText path).text)
  catch
    | .inappropriateType .. => return .directory
    | _ => return .nothing

def absolute (directory : String) : IO String := do
  if directory.startsWith "/" then return directory
  return (← IO.currentDir).toString ++ "/" ++ directory

partial def readBackups (path : String) (number : Nat) : IO (List String) := do
  match ← readFile? (path ++ "." ++ toString number) with
  | some content => return content :: (← readBackups path (number + 1))
  | none => return []

def readArchive (path : String) : IO Journal.Archive :=
  return { current := (← readFile? path).getD "", backups := ← readBackups path 1 }

def writeJournal (directory : String) (l : Journal.Layout) (time : String) (es : List Entry) :
    IO Unit := do
  IO.FS.createDirAll directory
  l.writers.forM fun w => do
    let before ← readArchive (directory ++ "/" ++ w.name)
    ((l.archived time es w before).files (directory ++ "/" ++ w.name)).forM fun (path, content) =>
      IO.FS.writeFile path content

def run (args : List String) : IO UInt32 := do
  let environment ← readEnvironment
  match Settings.read environment with
  | .error fault =>
    IO.eprintln fault.message
    return 1
  | .ok settings =>
    let now ← readClock
    let directory ← absolute (environment.get "LOG_DIR" Journal.Layout.defaultDirectory)
    let path := (CommandLine.Reading.ofArguments args).inputPath
    let found ← look path
    let report := CommandLine.run
      { environment, settings, now, directory
        pipelineId := ← drawId
        look := fun p => if p = path then found else .nothing } args
    let time := Journal.timeOf now
    (report.output time).forM fun line => IO.println line
    if let some l := report.layout then writeJournal directory l time report.journal
    if let some message := report.ending.message? then IO.eprintln message
    return report.ending.exitCode.toUInt32

end RecordPipeline.Main

def main (args : List String) : IO UInt32 := RecordPipeline.Main.run args
