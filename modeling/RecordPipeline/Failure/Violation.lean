import RecordPipeline.Text.Blank
import RecordPipeline.Value.Text
set_option autoImplicit false

/-!
Violations of the rules for failure records. An identity field is missing when it is null and invalid
when its text is blank; the payload is missing when it is null.
-/

namespace RecordPipeline

namespace Failure

inductive Field where
  | pluginId
  | pluginName
  | pipelineName
  | failedData
  | timestamp
  deriving DecidableEq

def Field.name : Field → String
  | .pluginId => "plugin_id"
  | .pluginName => "plugin_name"
  | .pipelineName => "pipeline_name"
  | .failedData => "failed_data"
  | .timestamp => "timestamp"

inductive ViolationKind where
  | missing
  | invalid
  deriving DecidableEq

def ViolationKind.name : ViolationKind → String
  | .missing => "missing_field"
  | .invalid => "invalid_field"

structure Violation where
  field : Field
  kind : ViolationKind
  message : String
  deriving DecidableEq

def Violation.missing (field : Field) : Violation :=
  { field, kind := .missing, message := field.name ++ " cannot be None" }

def Violation.empty (field : Field) : Violation :=
  { field, kind := .invalid, message := field.name ++ " cannot be empty" }

def summary (violations : List Violation) : String :=
  if violations.isEmpty then "No validation errors"
  else "; ".intercalate (violations.map Violation.message)

structure Draft where
  pluginId : Value := .null
  pluginName : Value := .null
  pipelineName : Value := .null
  failedData : Value := .null
  deriving Inhabited

def checkIdentity (field : Field) : Value → Except ValueFault (List Violation)
  | .null => .ok [.missing field]
  | v => do return if Text.isBlankText (← v.plain) then [.empty field] else []

def checkPayload : Value → List Violation
  | .null => [.missing .failedData]
  | _ => []

def Draft.validate (d : Draft) : Except ValueFault (List Violation) := do
  let a ← checkIdentity .pluginId d.pluginId
  let b ← checkIdentity .pluginName d.pluginName
  let c ← checkIdentity .pipelineName d.pipelineName
  return a ++ b ++ c ++ checkPayload d.failedData

end Failure

end RecordPipeline
