import RecordPipeline.Failure.Record
set_option autoImplicit false

namespace RecordPipeline

namespace Failure

inductive Part where
  | pluginId
  | pluginName
  | pipelineName
  | failedData
  deriving DecidableEq

def Part.field : Part → Field
  | .pluginId => .pluginId
  | .pluginName => .pluginName
  | .pipelineName => .pipelineName
  | .failedData => .failedData

namespace Draft

def get (d : Draft) : Part → Value
  | .pluginId => d.pluginId
  | .pluginName => d.pluginName
  | .pipelineName => d.pipelineName
  | .failedData => d.failedData

def set (d : Draft) (part : Part) (v : Value) : Draft :=
  match part with
  | .pluginId => { d with pluginId := v }
  | .pluginName => { d with pluginName := v }
  | .pipelineName => { d with pipelineName := v }
  | .failedData => { d with failedData := v }

@[simp] theorem get_set_self (d : Draft) (part : Part) (v : Value) : (d.set part v).get part = v := by
  cases part <;> rfl

theorem get_set_of_ne (d : Draft) {part other : Part} (v : Value) (h : other ≠ part) :
    (d.set part v).get other = d.get other := by
  cases part <;> cases other <;> first | rfl | exact absurd rfl h

end Draft

end Failure

namespace Builder

open Failure (Draft Part Violation)

inductive Call where
  | set (part : Part) (v : Value)
  | validate
  | build (now : Moment)

/-- What a call comes to; setting a part gives the builder back. -/
inductive Answer where
  | builder
  | checked (found : Except ValueFault (List Violation))
  | built (outcome : Except RecordFault FailureRecord)

def after (d : Draft) : Call → Draft
  | .set part v => d.set part v
  | .validate | .build _ => d

def answer (d : Draft) : Call → Answer
  | .set _ _ => .builder
  | .validate => .checked d.validate
  | .build now => .built (FailureRecord.build d now)

def run (d : Draft) : List Call → Draft × List Answer
  | [] => (d, [])
  | call :: calls =>
    let (last, answers) := run (after d call) calls
    (last, answer d call :: answers)

end Builder

end RecordPipeline
