import RecordPipeline.Journal.Timed
import RecordPipeline.Pipeline.Result
import RecordPipeline.Processor.Basic
set_option autoImplicit false

/-!
Pipelines: processors that passed the activation gate, in the order of their plugin ids' first
registration. A run feeds a batch through them one after the other; a processor that fails is skipped,
or ends the run when the pipeline is strict.
-/

namespace RecordPipeline

inductive ErrorMode where
  | strict
  | «continue»
  deriving DecidableEq

structure PipelineError where
  message : String
  pipelineName : String
  /-- The result at that point, unless a processor's failure ended the run. -/
  report : Option PipelineResult
  cause : Fault

structure Pipeline where
  name : String
  version : String := "1.0.0"
  id : String
  mode : ErrorMode := .continue
  activator : Activator
  sink : Option Sink := none
  processors : List (Value × Processor) := []
  result : Option PipelineResult := none

namespace Pipeline

def nameOf (s : Settings) (name : Option String) : String :=
  match name with
  | some n => if n = "" then s.pipelineName else n
  | none => s.pipelineName

def text (p : Pipeline) : String := p.name ++ " v" ++ p.version

def shown (p : Pipeline) : String :=
  "<ProcessingPipeline(name='" ++ p.name ++ "', version='" ++ p.version ++ "')>"

def logger (p : Pipeline) : String := "pipeline." ++ p.name

/-- Adds a processor that the gate lets through: the outcome, the pipeline after it and the entries.
Under a plugin id that is there it takes the place of the earlier one. -/
def register (p : Pipeline) (proc : Processor) : Except ActivationFault Unit × Pipeline × List Entry :=
  let (entries, decision) := p.activator.activate proc.descriptor
  match decision with
  | .error fault => (.error fault, p, entries)
  | .ok _ =>
    match proc.pluginId.keyFault? with
    | some fault => (.error (.value fault), p, entries)
    | none =>
      (.ok (), { p with processors := Value.putEntry proc.pluginId proc p.processors },
        entries ++ [.of p.logger .info ("Registered processor: " ++ proc.text)])

structure Progress where
  data : Value
  context : Context
  result : PipelineResult
  trail : Trail

inductive Exit where
  | aborted (error : PipelineError)
  | broken (fault : Fault)

def Exit.message : Exit → String
  | .aborted error => error.message
  | .broken fault => fault.shown

def Progress.note (g : Progress) (e : Entry) : Progress := { g with trail := g.trail.note e }

/-- The plugin id and the text of a fault, the first of the two that cannot be written out aside. -/
def failureOf (plugin : Value) (fault : Fault) : Except ValueFault (String × String) := do
  return (← plugin.plain, ← fault.message)

/-- The failure of a processor: it is reported, and ends the run in strict mode. A plugin id or a
fault that cannot be written out ends it in any mode. -/
def onFailure (p : Pipeline) (plugin : Value) (fault : Fault) (g : Progress) :
    Progress × Option Exit :=
  match failureOf plugin fault with
  | .error unwritable => (g, some (.broken (.value unwritable)))
  | .ok (id, text) =>
    let message := id ++ " failed: " ++ text
    let g := g.note (.of p.logger .error message)
    let g := { g with result := g.result.addProcessorResult plugin (.failure text) }
    match p.mode with
    | .strict =>
      (g, some (.aborted { message, pipelineName := p.name, report := none, cause := fault }))
    | .continue => ({ g with result := g.result.addWarning message }, none)

/-- Runs one processor on the data in a child context, which is merged back whatever happens. The data
moves on as soon as the processor returns, even if its length cannot be taken then. -/
def step (p : Pipeline) (a : Ambient) (plugin : Value) (proc : Processor) (g : Progress) :
    Processor × Progress × Option Exit :=
  let running := Entry.attempt p.logger .info do
    return "Running " ++ (← plugin.plain) ++ " processor..."
  let scene : Scene := { trail := g.trail.note running, context := g.context.child proc.name }
  let (outcome, proc, scene) := proc.process a g.data scene
  let g := { g with trail := scene.trail }
  let (g, exit) :=
    match outcome with
    | .error fault => p.onFailure plugin fault g
    | .ok out =>
      let g := { g with data := out }
      match out.length with
      | .error fault => p.onFailure plugin (.value fault) g
      | .ok n =>
        let metadata := scene.context.metadata
        let report := StepReport.success metadata.duration n metadata.recordsFailed
        ({ g with result := g.result.addProcessorResult plugin report }, none)
  (proc, { g with context := g.context.merge scene.context }, exit)

def steps (p : Pipeline) (a : Ambient) :
    List (Value × Processor) → Progress → List (Value × Processor) × Progress × Option Exit
  | [], g => ([], g, none)
  | (plugin, proc) :: rest, g =>
    match p.step a plugin proc g with
    | (proc, g, some exit) => ((plugin, proc) :: rest, g, some exit)
    | (proc, g, none) =>
      let (rest, g, exit) := p.steps a rest g
      ((plugin, proc) :: rest, g, exit)

def conclude (g : Progress) : Except ValueFault PipelineResult × PipelineResult :=
  let r := { g.result with output := g.data }
  match g.data.length with
  | .error fault => (.error fault, r)
  | .ok n =>
    let r := { r with
      processedItems := n
      failedItems := g.context.metadata.recordsFailed
      failureRecords := g.context.failureRecords
      errors := r.errors ++ g.context.errors }
    (.ok r, r)

def execute (p : Pipeline) (a : Ambient) (records : Option Value) (r : PipelineResult) (t : Trail) :
    Option Exit × PipelineResult × List (Value × Processor) × Trail :=
  match records with
  | none => (some (.broken (.raised .value (.ok "Must provide records"))), r, p.processors, t)
  | some data =>
    match data.length with
    | .error fault => (some (.broken (.value fault)), r, p.processors, t)
    | .ok n =>
      let start : Progress :=
        { data
          context := { pipelineName := .text p.name, sink := p.sink }
          result := { r with totalItems := n }
          trail := t }
      match p.steps a p.processors start with
      | (processors, g, some exit) => (some exit, g.result, processors, g.trail)
      | (processors, g, none) =>
        match conclude g with
        | (.ok _, r) => (none, r, processors, g.trail)
        | (.error fault, r) => (some (.broken (.value fault)), r, processors, g.trail)

def runId (p : Pipeline) (a : Ambient) : String := p.name ++ "_" ++ a.now.compactText ++ "_" ++ p.id

def failedItemsEntries (p : Pipeline) (r : PipelineResult) : List Entry :=
  if 0 < r.failedItems then
    [.of p.logger .warning ("Failed items: " ++ String.ofList (Numeral.signed r.failedItems))]
  else []

def errorOf (p : Pipeline) (r : PipelineResult) : Exit → PipelineError
  | .aborted error => error
  | .broken fault =>
    { message := "Pipeline " ++ p.name ++ " failed"
      pipelineName := p.name
      report := some r
      cause := fault }

def run (p : Pipeline) (a : Ambient) (records : Option Value) (t : Trail) :
    Except PipelineError PipelineResult × Pipeline × Trail :=
  let id := p.runId a
  let t := t.note (.of p.logger .info ("Starting pipeline: " ++ p.name ++ " (ID: " ++ id ++ ")"))
  match p.execute a records { pipelineId := id, startTime := a.now } t with
  | (none, r, processors, t) =>
    let r := if r.status = "running" then r.complete a.later "completed" else r
    let t := t.note (.of p.logger .info ("Pipeline completed: " ++ r.status))
    (.ok r, { p with processors, result := some r }, t.noteAll (p.failedItemsEntries r))
  | (some exit, r, processors, t) =>
    let r := (r.complete a.later "failed").addError ("Pipeline execution failed: " ++ exit.message)
    let t := t.note (.of p.logger .error ("Pipeline failed: " ++ exit.message))
    (.error (p.errorOf r exit), { p with processors, result := some r }, t)

def operation : Operation :=
  { name := "process_records", logger := "src.pipelines.processing_pipeline" }

def processRecords (p : Pipeline) (a : Ambient) (start finish : Double) (records : Value) (t : Trail) :
    Except PipelineError PipelineResult × Pipeline × Trail :=
  let (outcome, p, t) := p.run a (some records) (t.note operation.startEntry)
  (outcome, p, t.note (operation.endEntry start finish PipelineError.message outcome))

end Pipeline

end RecordPipeline
