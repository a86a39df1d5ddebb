import RecordPipeline.Fault
import RecordPipeline.Journal.Entry
import RecordPipeline.Settings
set_option autoImplicit false

/-!
Processing contexts: what a processor reports about its work, and the dead-letter path on which it puts
the records it gives up on. A child context starts with metadata of its own and is merged back later.
-/

namespace RecordPipeline

/-- What work finds around it. The clock stands at `now` while work goes on, and at `later` where a call
or a run is over. -/
structure Ambient where
  now : Moment
  later : Moment := now
  settings : Settings
  deriving Inhabited

/-- Receives failure records. What it does with one may depend on those it was offered before, the
oldest first. -/
structure Sink where
  respond : List FailureRecord → FailureRecord → Option Fault

namespace Sink

def collect : Sink := ⟨fun _ _ => none⟩

def failAfter (capacity : Nat) (message : String) : Sink :=
  ⟨fun earlier _ => if earlier.length < capacity then none else some (.raised .runtime (.ok message))⟩

def takenAfter (s : Sink) (earlier : List FailureRecord) : List FailureRecord → List FailureRecord
  | [] => []
  | r :: rest =>
    match s.respond earlier r with
    | none => r :: takenAfter s (earlier ++ [r]) rest
    | some _ => takenAfter s (earlier ++ [r]) rest

def taken (s : Sink) (offered : List FailureRecord) : List FailureRecord := s.takenAfter [] offered

end Sink

/-- What work leaves behind outside of its context, oldest first. -/
structure Trail where
  journal : List Entry := []
  offered : List FailureRecord := []
  deriving Inhabited

def Trail.note (t : Trail) (e : Entry) : Trail := { t with journal := t.journal ++ [e] }

def Trail.noteAll (t : Trail) (es : List Entry) : Trail := { t with journal := t.journal ++ es }

structure Metadata where
  processorName : String := ""
  processorVersion : String := "1.0.0"
  startTime : Option Moment := none
  endTime : Option Moment := none
  duration : Option Double := none
  recordsIn : Option Nat := none
  recordsProcessed : Option Nat := none
  recordsFailed : Nat := 0
  validationPassed : Bool := true
  warningsCount : Nat := 0
  errorsCount : Nat := 0
  metrics : List (String × Value) := []

structure Context where
  metadata : Metadata := {}
  pipelineName : Value
  sink : Option Sink := none
  errors : List String := []
  warnings : List String := []
  failureRecords : List FailureRecord := []

namespace Context

def ofSettings (s : Settings) (sink : Option Sink) : Context :=
  { pipelineName := .text s.pipelineName, sink }

def start (c : Context) (now : Moment) : Context :=
  { c with metadata := { c.metadata with startTime := some now } }

def finish (c : Context) (now : Moment) : Context :=
  let duration := match c.metadata.startTime with
    | some start => some (start.secondsBetween now)
    | none => c.metadata.duration
  { c with metadata := { c.metadata with endTime := some now, duration } }

def addMetric (c : Context) (key : String) (v : Value) : Context :=
  { c with metadata := { c.metadata with metrics := putNamed key v c.metadata.metrics } }

def addError (c : Context) (message : String) : Context :=
  let errors := c.errors ++ [message]
  { c with errors, metadata := { c.metadata with errorsCount := errors.length } }

def addWarning (c : Context) (message : String) : Context :=
  let warnings := c.warnings ++ [message]
  { c with warnings, metadata := { c.metadata with warningsCount := warnings.length } }

def countFailure (c : Context) : Context :=
  { c with metadata := { c.metadata with recordsFailed := c.metadata.recordsFailed + 1 } }

def keep (c : Context) (r : FailureRecord) : Context :=
  { c with failureRecords := c.failureRecords ++ [r] }

def child (c : Context) (processorName : String) : Context :=
  { metadata := { processorName }, pipelineName := c.pipelineName, sink := c.sink }

/-- Metrics of a child stand under its processor's name and their own. -/
def mergedMetric (processorName key : String) : String := processorName ++ "_" ++ key

def merge (parent child : Context) : Context :=
  let errors := parent.errors ++ child.errors
  let warnings := parent.warnings ++ child.warnings
  let metrics := child.metadata.metrics.foldl
    (fun ms m => putNamed (mergedMetric child.metadata.processorName m.1) m.2 ms)
    parent.metadata.metrics
  { parent with
    errors
    warnings
    failureRecords := parent.failureRecords ++ child.failureRecords
    metadata := { parent.metadata with
      errorsCount := errors.length
      warningsCount := warnings.length
      recordsFailed := parent.metadata.recordsFailed + child.metadata.recordsFailed
      metrics } }

/-- Metrics after merging those under the given keys into themselves. They must not grow while they are
read, so the first new one ends the merge; the flag tells whether there was one. -/
def mergeMetrics (processorName : String) :
    List String → List (String × Value) → List (String × Value) × Bool
  | [], metrics => (metrics, false)
  | key :: rest, metrics =>
    let merged := mergedMetric processorName key
    let grown := putNamed merged ((metrics.lookup key).getD .null) metrics
    if (metrics.lookup merged).isSome then mergeMetrics processorName rest grown else (grown, true)

def mergeSelf (c : Context) : Context × Bool :=
  let m := c.metadata
  let (metrics, grew) := mergeMetrics m.processorName (m.metrics.map Prod.fst) m.metrics
  let merged := c.merge { c with metadata := { m with metrics := [] } }
  ({ merged with metadata := { merged.metadata with metrics } }, grew)

end Context

structure Scene where
  trail : Trail := {}
  context : Context

namespace Scene

def contextLogger : String := "processing_context"

def note (s : Scene) (e : Entry) : Scene := { s with trail := s.trail.note e }

def addError (s : Scene) (message : String) : Scene :=
  { s with context := s.context.addError message }.note (.of contextLogger .error message)

def addWarning (s : Scene) (message : String) : Scene :=
  { s with context := s.context.addWarning message }.note (.of contextLogger .warning message)

end Scene

/-- Work changes the scene and may fail; what it did before it failed stays done. -/
abbrev Work (α : Type) := ExceptT Fault (StateM Scene) α

namespace Work

def note (e : Entry) : Work Unit := modify (·.note e)

def change (f : Context → Context) : Work Unit := modify fun s => { s with context := f s.context }

def context : Work Context := return (← get).context

def addError (message : String) : Work Unit := modify (·.addError message)

def addWarning (message : String) : Work Unit := modify (·.addWarning message)

def mergeSelf : Work Unit := do
  let (merged, grew) := (← context).mergeSelf
  change fun _ => merged
  if grew then throw (.raised .runtime (.ok "dictionary changed size during iteration"))

def deadLetterLogger : String := "dead_letter"

def droppedEntry (r : FailureRecord) : Entry :=
  .attempt deadLetterLogger .warning do
    return "Dead-letter routing disabled, dropping failed record from " ++ (← r.pluginName.plain)

def keptEntry (r : FailureRecord) : Entry :=
  .attempt deadLetterLogger .info do
    return "Dead-letter record: " ++ (← r.text)

def offer (r : FailureRecord) : Work Unit := do
  let s ← get
  match s.context.sink with
  | none => return
  | some sink =>
    set { s with trail := { s.trail with offered := s.trail.offered ++ [r] } }
    match sink.respond s.trail.offered r with
    | none => return
    | some fault => throw fault

/-- Counts a failed record. When routing is on, the context keeps it and the sink is offered it. -/
def deadLetter (a : Ambient) (r : FailureRecord) : Work Unit := do
  change Context.countFailure
  if a.settings.deadLetterEnabled then
    change (·.keep r)
    note (keptEntry r)
    offer r
  else note (droppedEntry r)

end Work

end RecordPipeline
