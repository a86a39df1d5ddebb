import RecordPipeline.Failure.Violation
import RecordPipeline.Moment.Timestamp
import RecordPipeline.Value.Equal
set_option autoImplicit false

/-!
Failure records: a payload that a plugin could not process, with the identity of the plugin and of the
pipeline and the time at which they gave up on it.
-/

namespace RecordPipeline

/-- Why a failure record is not made. The first violation decides between the first two. -/
inductive RecordFault where
  | missing (violations : List Failure.Violation)
  | invalid (violations : List Failure.Violation)
  | value (fault : ValueFault)

namespace RecordFault

def violations : RecordFault → List Failure.Violation
  | .missing vs | .invalid vs => vs
  | .value _ => []

def message : RecordFault → String
  | .missing vs | .invalid vs => Failure.summary vs
  | .value fault => fault.message

end RecordFault

structure FailureRecord where
  pluginId : Value
  pluginName : Value
  pipelineName : Value
  failedData : Value
  timestamp : String

namespace FailureRecord

def schemaVersion : String := "1"

def faultOf (first : Failure.Violation) (others : List Failure.Violation) : RecordFault :=
  match first.kind with
  | .missing => .missing (first :: others)
  | .invalid => .invalid (first :: others)

def judge : List Failure.Violation → Except RecordFault Unit
  | [] => .ok ()
  | v :: vs => .error (faultOf v vs)

def checkTimestamp (given : Value) : Except ValueFault (Except Failure.Violation String) :=
  match given with
  | .null => .ok (.error (.missing .timestamp))
  | v => do
    let valid := match v with
      | .text s => Timestamp.isValid s
      | _ => false
    let text ← v.plain
    if valid then return .ok text
    return .error {
      field := .timestamp
      kind := .invalid
      message := "timestamp '" ++ text ++ "' is not yyyy-MM-ddTHH:mm:ss.SSSZ" }

def make (d : Failure.Draft) (timestamp : Value) : Except RecordFault FailureRecord := do
  let found ← d.validate.mapError .value
  let checked ← (checkTimestamp timestamp).mapError .value
  match found, checked with
  | v :: vs, .error last => .error (faultOf v (vs ++ [last]))
  | [], .error last => .error (faultOf last [])
  | v :: vs, .ok _ => .error (faultOf v vs)
  | [], .ok text =>
    return {
      pluginId := d.pluginId
      pluginName := d.pluginName
      pipelineName := d.pipelineName
      failedData := d.failedData
      timestamp := text }

/-- Makes a record of a draft at a moment. The draft is checked before the timestamp is written. -/
def build (d : Failure.Draft) (now : Moment) : Except RecordFault FailureRecord := do
  judge (← d.validate.mapError .value)
  make d (.text (Timestamp.format now))

/-- Data that is nested deeper has no text. -/
def textLimit : Nat := 970

def text (r : FailureRecord) : Except ValueFault String := do
  if textLimit < r.failedData.depth then throw .tooDeepToShow
  return "FailureRecord\x7bplugin_id='" ++ (← r.pluginId.plain) ++
    "', plugin_name='" ++ (← r.pluginName.plain) ++
    "', pipeline_name='" ++ (← r.pipelineName.plain) ++
    "', failed_data=" ++ (← r.failedData.plain) ++
    ", timestamp='" ++ r.timestamp ++
    "', schema_version='" ++ schemaVersion ++ "'\x7d"

def fields (r : FailureRecord) : List (String × Value) :=
  [("plugin_id", r.pluginId), ("plugin_name", r.pluginName), ("pipeline_name", r.pipelineName),
    ("failed_data", r.failedData), ("timestamp", .text r.timestamp),
    ("schema_version", .text schemaVersion)]

/-- A field that holds one and the same thing in both records is equal without being looked at. -/
def equalField (shared : Bool) (a b : Value) : Except ValueFault Bool :=
  if shared then .ok true else a.equal b

def equal (shared : Failure.Field → Bool) (a b : FailureRecord) : Except ValueFault Bool := do
  if !(← equalField (shared .pluginId) a.pluginId b.pluginId) then return false
  if !(← equalField (shared .pluginName) a.pluginName b.pluginName) then return false
  if !(← equalField (shared .pipelineName) a.pipelineName b.pipelineName) then return false
  if !(← equalField (shared .failedData) a.failedData b.failedData) then return false
  return a.timestamp = b.timestamp

def differ (shared : Failure.Field → Bool) (a b : FailureRecord) : Except ValueFault Bool :=
  (a.equal shared b).map (!·)

end FailureRecord

end RecordPipeline
