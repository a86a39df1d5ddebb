import RecordPipeline.Processor.Basic
set_option autoImplicit false

namespace RecordPipeline

namespace Script

inductive Action where
  | error (message : String)
  | warning (message : String)
  | metric (key : String) (v : Value)
  | fail (payload : Value)
  | failAll
  | raise (fault : Fault)
  | answer (v : Value)

/-- The core of a scripted processor: actions until one raises or answers, and the data as it came. -/
def play (i : Identity) (a : Ambient) (data : Value) : List Action → Work Value
  | [] => return data
  | .error m :: rest => do Work.addError m; play i a data rest
  | .warning m :: rest => do Work.addWarning m; play i a data rest
  | .metric k v :: rest => do Work.change (·.addMetric k v); play i a data rest
  | .fail payload :: rest => do i.failRecord a payload; play i a data rest
  | .failAll :: rest => do
    match data.items with
    | .error fault => throw (.value fault)
    | .ok items =>
      items.forM (i.failRecord a)
      play i a data rest
  | .raise fault :: _ => throw fault
  | .answer v :: _ => return v

def processor (i : Identity) (input output : Option Contract) (actions : List Action) : Processor :=
  { i with
    kind := "ScriptedProcessor"
    input := input.map Contract.inWork
    output := output.map Contract.inWork
    core := fun a data => play i a data actions }

def setEntries (i : Identity) (input output : Option Contract) : List Entry :=
  (input.map i.inputSetEntry).toList ++ (output.map i.outputSetEntry).toList

end Script

end RecordPipeline
