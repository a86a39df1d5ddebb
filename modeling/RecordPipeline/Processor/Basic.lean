import RecordPipeline.Context
import RecordPipeline.Contract.Basic
import RecordPipeline.Plugin
set_option autoImplicit false

/-!
Processors: a plugin's identity, its checks and its core logic. Processing validates the input, runs
the core and validates the output; whatever ends it early leaves as a processor's fault.
-/

namespace RecordPipeline

structure Tally where
  processed : Nat := 0
  errors : Nat := 0
  failedRecords : Int := 0
  deriving DecidableEq, Inhabited

structure Identity where
  name : String
  version : String := "1.0.0"
  pluginId : Value
  pipelineVersion : Value

def Contract.inWork (c : Contract) : Check Fault := c.check.mapError .value

structure Processor extends Identity where
  kind : String
  input : Option (Check Fault) := none
  output : Option (Check Fault) := none
  core : Ambient → Value → Work Value
  validateConfig : Value → Except ValueFault Bool := fun _ => .ok true
  tally : Tally := {}

namespace Identity

/-- The name stands in for a plugin id that does not count as true, the current version for a declared
version that does not. -/
def make (name version : String) (pluginId pipelineVersion : Value) : Identity :=
  { name
    version
    pluginId := if pluginId.countsAsTrue then pluginId else .text name
    pipelineVersion := if pipelineVersion.countsAsTrue then pipelineVersion else .text Version.currentText }

def logger (i : Identity) : String := "data_processing." ++ i.name

def descriptor (i : Identity) : Descriptor :=
  { pluginId := i.pluginId, name := .text i.name, version := i.pipelineVersion }

def text (i : Identity) : String := i.name ++ " v" ++ i.version

def failRecord (i : Identity) (a : Ambient) (payload : Value) : Work Unit := do
  let c ← Work.context
  let draft : Failure.Draft :=
    { pluginId := i.pluginId
      pluginName := .text i.name
      pipelineName := c.pipelineName
      failedData := payload }
  match FailureRecord.build draft a.now with
  | .ok r => Work.deadLetter a r
  | .error fault => throw (Fault.ofRecord fault)

def inputSetEntry (i : Identity) (c : Contract) : Entry :=
  .of i.logger .debug ("Input contract set: " ++ c.name)

def outputSetEntry (i : Identity) (c : Contract) : Entry :=
  .of i.logger .debug ("Output contract set: " ++ c.name)

end Identity

namespace Processor

def shown (p : Processor) : String :=
  "<" ++ p.kind ++ "(name='" ++ p.name ++ "', version='" ++ p.version ++ "')>"

inductive Side where
  | input
  | output

def Side.name : Side → String
  | .input => "input"
  | .output => "output"

def Side.title : Side → String
  | .input => "Input"
  | .output => "Output"

def issueText (side : Side) (i : Issue) : String :=
  side.name ++ " validation - " ++ i.field ++ ": " ++ i.message

/-- Issues go into the context as errors and warnings, the metadata as a metric. -/
def report (side : Side) (v : Verdict) : Work Unit := do
  v.errors.forM fun i => Work.addError (issueText side i)
  v.warnings.forM fun i => Work.addWarning (issueText side i)
  Work.change (·.addMetric (side.name ++ "_validation_metadata") (Value.ofFields v.metadata))

def hold (p : Processor) (side : Side) (check : Option (Check Fault)) (data : Value) : Work Unit := do
  match check with
  | none => return
  | some c =>
    Work.note (.of p.logger .debug ("Validating " ++ side.name ++ " data"))
    let (entries, outcome) := c.validate data
    entries.forM Work.note
    match outcome with
    | .error fault => throw fault
    | .ok v =>
      report side v
      if !v.isValid then
        throw (.processor (side.title ++ " validation failed: " ++ v.summary) p.name true none)

def countIn (data : Value) : Work Unit :=
  match data.batchSize? with
  | some n => Work.change fun c => { c with metadata := { c.metadata with recordsIn := some n } }
  | none => return

def countOut (data : Value) : Work Unit :=
  match data.batchSize? with
  | some n =>
    Work.change fun c => { c with metadata := { c.metadata with recordsProcessed := some n } }
  | none => return

def prepare (p : Processor) (data : Value) : Work Unit := do
  Work.note (.of p.logger .info ("Starting processing with " ++ p.name))
  p.hold .input p.input data
  countIn data
  Work.note (.of p.logger .debug "Executing core processing logic")

def release (p : Processor) (out : Value) : Work Unit := do
  countOut out
  p.hold .output p.output out

def enter (p : Processor) (now : Moment) (c : Context) : Context :=
  { c with metadata := { c.metadata with
      processorName := p.name, processorVersion := p.version, startTime := some now } }

def leave (now : Moment) (passed : Bool) (c : Context) : Context :=
  let c := c.finish now
  { c with metadata := { c.metadata with validationPassed := passed } }

def completedEntry (p : Processor) (c : Context) : Entry :=
  let seconds := String.ofList ((c.metadata.duration.getD default).fixed 2)
  .of p.logger .info ("Processing completed successfully in " ++ seconds ++ " s")

/-- The end of a call that did not go through. A processor's own fault is passed on; any other becomes
the cause of one, which the context records, unless its text cannot be written out. -/
def giveUp (p : Processor) (a : Ambient) (fault : Fault) (s : Scene) : Fault × Scene :=
  let s := { s with context := leave a.later false s.context }
  match fault with
  | .processor .. => (fault, s)
  | fault =>
    match fault.message with
    | .error unwritable => (.value unwritable, s)
    | .ok text =>
      let message := "Processing failed in " ++ p.name ++ ": " ++ text
      (.processor message p.name true (some fault), s.addError message)

def countError (p : Processor) : Processor :=
  { p with tally := { p.tally with errors := p.tally.errors + 1 } }

def countProcessed (p : Processor) : Processor :=
  { p with tally := { p.tally with processed := p.tally.processed + 1 } }

/-- Failed records are counted from what the core added to the context. -/
def countFailed (p : Processor) (before after : Context) : Processor :=
  { p with tally := { p.tally with
      failedRecords := p.tally.failedRecords +
        ((after.metadata.recordsFailed : Int) - before.metadata.recordsFailed) } }

def process (p : Processor) (a : Ambient) (data : Value) (s : Scene) :
    Except Fault Value × Processor × Scene :=
  let failed (p : Processor) (fault : Fault) (s : Scene) : Except Fault Value × Processor × Scene :=
    let (e, s) := p.giveUp a fault s
    (.error e, p.countError, s)
  let s := { s with context := p.enter a.now s.context }
  match (p.prepare data).run.run s with
  | (.error fault, s) => failed p fault s
  | (.ok (), before) =>
    match (p.core a data).run.run before with
    | (.error fault, s) => failed p fault s
    | (.ok out, s) =>
      let p := p.countFailed before.context s.context
      match (p.release out).run.run s with
      | (.error fault, s) => failed p fault s
      | (.ok (), s) =>
        let s := { s with context := leave a.later true s.context }
        (.ok out, p.countProcessed, s.note (p.completedEntry s.context))

end Processor

end RecordPipeline
