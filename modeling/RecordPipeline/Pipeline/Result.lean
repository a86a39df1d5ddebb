import RecordPipeline.Failure.Record
set_option autoImplicit false

namespace RecordPipeline

/-- What a run notes about one call of a processor. -/
inductive StepReport where
  | success (duration : Option Double) (records failed : Nat)
  | failure (error : String)
  | other (v : Value)

namespace StepReport

def isSuccess : StepReport → Bool
  | .success .. => true
  | _ => false

def toValue : StepReport → Value
  | .success duration records failed =>
    Value.ofFields [("status", .text "success"),
      ("duration", (duration.map Value.float).getD .null),
      ("records", .int records), ("records_failed", .int failed)]
  | .failure error => Value.ofFields [("status", .text "failed"), ("error", .text error)]
  | .other v => v

end StepReport

structure PipelineResult where
  pipelineId : String
  startTime : Moment
  endTime : Option Moment := none
  duration : Option Double := none
  status : String := "running"
  totalItems : Int := 0
  processedItems : Int := 0
  failedItems : Int := 0
  output : Value := .null
  processorResults : List (Value × List StepReport) := []
  failureRecords : List FailureRecord := []
  errors : List String := []
  warnings : List String := []

namespace PipelineResult

def complete (r : PipelineResult) (now : Moment) (status : String) : PipelineResult :=
  { r with endTime := some now, duration := some (r.startTime.secondsBetween now), status }

def addProcessorResult (r : PipelineResult) (plugin : Value) (report : StepReport) : PipelineResult :=
  let earlier := (Value.atKey? plugin r.processorResults).getD []
  { r with processorResults := Value.putEntry plugin (earlier ++ [report]) r.processorResults }

def addNamedResult (r : PipelineResult) (name : Value) (report : StepReport) :
    Except ValueFault PipelineResult :=
  match name.keyFault? with
  | some fault => .error fault
  | none => .ok (r.addProcessorResult name report)

def addError (r : PipelineResult) (message : String) : PipelineResult :=
  { r with errors := r.errors ++ [message] }

def addWarning (r : PipelineResult) (message : String) : PipelineResult :=
  { r with warnings := r.warnings ++ [message] }

/-- Percentage of the items that were processed, first a rounded quotient and then a rounded product. -/
def successRate (r : PipelineResult) : Double :=
  (Double.ofRatio (r.processedItems < 0) r.processedItems.natAbs (max r.totalItems 1).toNat).scale 100

def summary (r : PipelineResult) : List (String × Value) :=
  [("pipeline_id", .text r.pipelineId),
    ("status", .text r.status),
    ("start_time", .text r.startTime.isoText),
    ("end_time", (r.endTime.map fun m => Value.text m.isoText).getD .null),
    ("duration_seconds", (r.duration.map Value.float).getD .null),
    ("total_items", .int r.totalItems),
    ("processed_items", .int r.processedItems),
    ("failed_items", .int r.failedItems),
    ("success_rate", .float r.successRate),
    ("errors_count", .int r.errors.length),
    ("warnings_count", .int r.warnings.length),
    ("processors_run", .list (r.processorResults.map Prod.fst))]

def fields (r : PipelineResult) : List (String × Value) :=
  r.summary ++
    [("processor_results",
        .record (r.processorResults.map fun p => (p.1, .list (p.2.map StepReport.toValue)))),
      ("failure_records", .list (r.failureRecords.map fun f => Value.ofFields f.fields)),
      ("errors", .list (r.errors.map Value.text)),
      ("warnings", .list (r.warnings.map Value.text))]

end PipelineResult

end RecordPipeline
