import RecordPipeline.CommandLine.Arguments
import RecordPipeline.CommandLine.Path
import RecordPipeline.Journal.Layout
import RecordPipeline.Json.Reader
import RecordPipeline.Json.Writer
import RecordPipeline.Pipeline.Basic
import RecordPipeline.Processor.FieldMapping
set_option autoImplicit false

/-!
Runs from the command line: reads records from a JSON file, maps their fields, and prints a JSON
line for each record that ends up on the dead-letter path.
-/

namespace RecordPipeline.CommandLine

inductive Fault where
  | layout (fault : Journal.LayoutFault)
  /-- A mapping without a colon, by its place among the mappings. -/
  | mappingWithoutColon (index : Nat)
  | missingFile (path : Path)
  | directory (path : Path)
  | nullInPath
  | document (fault : Json.Fault)
  | processor (fault : RecordPipeline.Fault)
  | activation (fault : ActivationFault)
  | pipeline (error : PipelineError)

def Fault.message : Fault → String
  | .layout fault => fault.message
  | .mappingWithoutColon index =>
    "dictionary update sequence element #" ++ String.ofList (Numeral.digits index) ++
      " has length 1; 2 is required"
  | .missingFile path => "[Errno 2] No such file or directory: " ++ Text.quoted path.text
  | .directory path => "[Errno 21] Is a directory: " ++ Text.quoted path.text
  | .nullInPath => "embedded null byte"
  | .document fault => fault.message
  | .processor fault => fault.shown
  | .activation fault => fault.message
  | .pipeline error => error.message

inductive Found where
  | nothing
  | directory
  | file (content : String)

structure Surroundings where
  environment : Environment
  settings : Settings
  now : Moment
  pipelineId : String
  directory : String
  look : String → Found

inductive Ending where
  | finished
  | helped
  | rejected
  | failed (fault : Fault)

structure Report where
  ending : Ending
  layout : Option Journal.Layout := none
  journal : List Entry := []
  printed : List String := []

def usage : String := "usage: [-h] [--mapping MAPPING] [--strict] input"

def Ending.exitCode : Ending → Nat
  | .finished | .helped => 0
  | .failed _ => 1
  | .rejected => 2

def unifyLineEnds : List Char → List Char
  | '\r' :: '\n' :: cs => '\n' :: unifyLineEnds cs
  | '\r' :: cs => '\n' :: unifyLineEnds cs
  | c :: cs => c :: unifyLineEnds cs
  | [] => []

/-- Field and type of mappings, the first of which has the given index. A colon ends the field. -/
def declaredBy (index : Nat) : List String → Except Fault (List (Value × Value))
  | [] => .ok []
  | m :: rest =>
    match Text.cut ':' m.toList with
    | (field, some typeName) => do
      return (.text (String.ofList field), .text (String.ofList typeName)) :: (← declaredBy (index + 1) rest)
    | (_, none) => .error (.mappingWithoutColon index)

def sourceOf (r : Request) : Except Fault FieldMapping.Source :=
  if r.mappings.isEmpty then .ok .settings else (declaredBy 0 r.mappings).map .fields

def readRecords (w : Surroundings) (path : String) : Except Fault Value :=
  if path.toList.contains '\x00' then .error .nullInPath
  else match w.look path with
    | .nothing => .error (.missingFile (.ofText path))
    | .directory => .error (.directory (.ofText path))
    | .file content => (Json.decodeChars (unifyLineEnds content.toList)).mapError .document

def recordLine (r : FailureRecord) : Except ValueFault String := Json.encode (Value.ofFields r.fields)

/-- The journal is written before a record is printed. It takes records whose data is nested this
deep. -/
def letterRoom : Nat := 973

def printer : Sink :=
  ⟨fun _ r =>
    if letterRoom < r.failedData.depth then some (.value .tooDeepToShow)
    else match recordLine r with
      | .ok _ => none
      | .error fault => some (.value fault)⟩

def printedLines (offered : List FailureRecord) : List String :=
  (printer.taken offered).filterMap fun r => (recordLine r).toOption

def pipelineFor (w : Surroundings) (r : Request) : Pipeline :=
  { name := Pipeline.nameOf w.settings none
    id := w.pipelineId
    mode := if r.strict then .strict else .continue
    activator := { enforce := w.settings.enforceVersions }
    sink := some printer }

def logger : String := "field_mapping_script"

def summaryEntry (r : PipelineResult) : Entry :=
  .of logger .info <|
    "Mapped " ++ String.ofList (Numeral.signed r.processedItems) ++ " of " ++
      String.ofList (Numeral.signed r.totalItems) ++ " records, " ++
      String.ofList (Numeral.signed r.failedItems) ++ " dead-lettered"

/-- Maps records with a newly registered processor. Readings of the operation clock are both zero. -/
def mapRecords (w : Surroundings) (r : Request) (ts : FieldMapping.Targets) (records : Value) :
    Except Fault Unit × Trail :=
  let identity := FieldMapping.identity .null .null
  let made : Trail := { journal := FieldMapping.setEntries identity ts }
  match (pipelineFor w r).register (FieldMapping.processor identity ts) with
  | (.error fault, _, entries) => (.error (.activation fault), made.noteAll entries)
  | (.ok (), p, entries) =>
    let a : Ambient := { now := w.now, settings := w.settings }
    let zero := Double.zero false
    match p.processRecords a zero zero records (made.noteAll entries) with
    | (.error error, _, trail) => (.error (.pipeline error), trail)
    | (.ok result, _, trail) => (.ok (), trail.note (summaryEntry result))

def gather (w : Surroundings) (r : Request) : Except Fault (FieldMapping.Targets × Value) := do
  let source ← sourceOf r
  let records ← readRecords w r.input
  let ts ← (FieldMapping.targets w.settings source).mapError .processor
  return (ts, records)

def serve (w : Surroundings) (r : Request) : Except Fault Unit × Trail :=
  match gather w r with
  | .error fault => (.error fault, {})
  | .ok (ts, records) => mapRecords w r ts records

def run (w : Surroundings) (args : List String) : Report :=
  match Reading.ofArguments args with
  | .help => { ending := .helped }
  | .rejected => { ending := .rejected }
  | .request r =>
    match Journal.Layout.read w.environment with
    | .error fault => { ending := .failed (.layout fault) }
    | .ok layout =>
      let (outcome, trail) := serve w r
      { ending := match outcome with
          | .ok () => .finished
          | .error fault => .failed fault
        layout := some layout
        journal := Journal.Layout.entries w.directory w.environment ++ trail.journal
        printed := printedLines trail.offered }

namespace Ending

def message? : Ending → Option String
  | .failed fault => some fault.message
  | .rejected => some usage
  | _ => none

end Ending

namespace Report

def announcesRecord (e : Entry) : Bool := e.logger = Work.deadLetterLogger && e.severity = .info

/-- Console lines of entries, each printed record behind the entry that announces it. -/
def interleave (text : Entry → Option String) : List Entry → List String → List String
  | [], printed => printed
  | e :: es, printed =>
    let here := (text e).toList
    match announcesRecord e, printed with
    | true, p :: printed => here ++ p :: interleave text es printed
    | _, printed => here ++ interleave text es printed

def output (r : Report) (time : String) : List String :=
  match r.ending, r.layout with
  | .helped, _ => [usage]
  | _, none => []
  | _, some l => interleave (l.consoleText time) r.journal r.printed

end Report

end RecordPipeline.CommandLine
