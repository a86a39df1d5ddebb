import RecordPipeline.Journal.Archive
import RecordPipeline.Journal.Entry
import RecordPipeline.Journal.Line
import RecordPipeline.Journal.Stamp
import RecordPipeline.Settings
import RecordPipeline.Text.WholeNumber
set_option autoImplicit false

/-!
Where journal entries go. A layout lists, for the root logger and three others, the handlers that their
entries reach; entries of a logger also reach the handlers of the root. Each handler takes entries from
some severity on.
-/

namespace RecordPipeline.Journal

abbrev Threshold := Option Severity

namespace Threshold

def name (t : Threshold) : String := (t.map Severity.name).getD "NOTSET"

def ofName? : String → Option Threshold
  | "CRITICAL" | "FATAL" => some (some .critical)
  | "ERROR" => some (some .error)
  | "WARNING" | "WARN" => some (some .warning)
  | "INFO" => some (some .info)
  | "DEBUG" => some (some .debug)
  | "NOTSET" => some none
  | _ => none

def admits (t : Threshold) (s : Severity) : Bool := t.all fun least => least.rank ≤ s.rank

end Threshold

inductive Form where
  | detailed
  | json
  deriving DecidableEq

namespace Form

def pattern : Form → String
  | .detailed =>
    "%(asctime)s - %(name)s - %(levelname)s - %(funcName)s:%(lineno)d - %(message)s"
  | .json => "%(message)s"

/-- Text of an entry in a file or on a console; nothing if the entry has no message. Entries have no
place in a source, so the part of a pattern that would name it is left out. -/
def render (f : Form) (time : String) (e : Entry) : Option String := do
  let message ← e.message
  match f with
  | .detailed => time ++ " - " ++ e.logger ++ " - " ++ e.severity.name ++ " - " ++ message
  | .json =>
    let line : Line :=
      { timestamp := time, logger := e.logger, level := e.severity.rank, function := none, line := 0,
        message, fault := none }
    line.text.toOption

end Form

inductive Destination where
  | console
  | file (name : String) (rotation : Rotation)
  deriving DecidableEq

structure Handler where
  destination : Destination
  threshold : Threshold
  form : Form
  deriving DecidableEq

def Handler.file? (h : Handler) : Option (String × Rotation) :=
  match h.destination with
  | .file name rotation => some (name, rotation)
  | .console => none

structure Layout where
  root : List Handler
  plugins : List Handler
  deadLetter : List Handler
  test : List Handler
  deriving DecidableEq

inductive LayoutFault where
  | value (fault : ValueFault)
  | consoleThreshold
  deriving DecidableEq

def LayoutFault.message : LayoutFault → String
  | .value fault => fault.message
  | .consoleThreshold => "Unable to configure handler 'console'"

namespace Layout

def file (name : String) (rotation : Rotation) (threshold : Severity) (form : Form) : Handler :=
  { destination := .file name rotation, threshold := some threshold, form }

def make (console : Threshold) (r : Rotation) : Layout :=
  let console : Handler := { destination := .console, threshold := console, form := .detailed }
  { root := [console, file "app.log" r .info .detailed, file "error.log" r .error .detailed]
    plugins := [file "plugins.log" r .debug .detailed]
    deadLetter := [file "dead_letter.log" r .debug .json]
    test := [console] }

def readRotation (e : Environment) : Except ValueFault Rotation := do
  let maxBytes ← Text.readWhole (e.get "LOG_MAX_SIZE" "10485760")
  let backups ← Text.readWhole (e.get "LOG_BACKUP_COUNT" "5")
  return { maxBytes, backups }

def read (e : Environment) : Except LayoutFault Layout := do
  let rotation ← (readRotation e).mapError .value
  match Threshold.ofName? (e.get "LOG_LEVEL" "INFO") with
  | some console => return make console rotation
  | none => throw .consoleThreshold

def logger : String := "config.logging"

def defaultDirectory : String := "monitoring/logs"

def entries (directory : String) (e : Environment) : List Entry :=
  [.of logger .info ("Logging configured. Log directory: " ++ directory),
    .of logger .info ("Environment: " ++ e.get "ENVIRONMENT" "development")]

/-- Whether entries of a logger also belong to another one, which has its name or the part of it before
a point. -/
def belongs (name other : String) : Bool := name = other || (other ++ ".").toList.isPrefixOf name.toList

def handlersFor (l : Layout) (name : String) : List Handler :=
  (if belongs name "plugins" then l.plugins else []) ++
    (if belongs name "dead_letter" then l.deadLetter else []) ++
    (if belongs name "test" then l.test else []) ++ l.root

structure Writer where
  name : String
  rotation : Rotation
  handler : Handler

def writers (l : Layout) : List Writer :=
  (l.root ++ l.plugins ++ l.deadLetter).filterMap fun handler =>
    handler.file?.map fun (name, rotation) => { name, rotation, handler }

def reaches (l : Layout) (h : Handler) (e : Entry) : Bool :=
  (l.handlersFor e.logger).contains h && h.threshold.admits e.severity

def textsOf (l : Layout) (time : String) (es : List Entry) (h : Handler) : List String :=
  es.filterMap fun e => if l.reaches h e then h.form.render time e else none

def consoleText (l : Layout) (time : String) (e : Entry) : Option String :=
  ((l.handlersFor e.logger).find? fun h => h.destination = .console && h.threshold.admits e.severity).bind
    fun h => h.form.render time e

def archived (l : Layout) (time : String) (es : List Entry) (w : Writer) (before : Archive) : Archive :=
  before.writeAll w.rotation (l.textsOf time es w.handler)

def files (l : Layout) (time : String) (es : List Entry) : List (String × String) :=
  l.writers.flatMap fun w => (l.archived time es w {}).files w.name

end Layout

end RecordPipeline.Journal
