import RecordPipeline.Conversion.Target
import RecordPipeline.Failure.Record
set_option autoImplicit false

namespace RecordPipeline

/-- Kinds of faults that processors and sinks raise on their own account. -/
inductive RaisedKind where
  | runtime
  | value
  | key
  | conversion
  /-- Any other kind that a handler of faults catches, by its name. A request to stop the program is
  none. -/
  | other (name : String)
  deriving DecidableEq

inductive Fault where
  | value (fault : ValueFault)
  | conversion (error : ConversionError)
  | record (fault : RecordFault)
  /-- Some texts cannot be written out, such as that of a missing key that is too long a number. -/
  | raised (kind : RaisedKind) (text : Except ValueFault String)
  /-- A processor gave up. `inContext` tells whether the fault refers to the context it arose in. -/
  | processor (message name : String) (inContext : Bool) (cause : Option Fault)

namespace Fault

def ofConversion : ConversionFault → Fault
  | .refused error => .conversion error
  | .value fault => .value fault

def ofRecord : RecordFault → Fault
  | .value fault => .value fault
  | fault => .record fault

def message : Fault → Except ValueFault String
  | .value fault => .ok fault.message
  | .conversion error => .ok error.message
  | .record fault => .ok fault.message
  | .raised .key text => text.map Text.quoted
  | .raised _ text => text
  | .processor m _ _ _ => .ok m

/-- The message as it is reported where nothing catches the fault. -/
def shown (fault : Fault) : String := fault.message.toOption.getD "<exception str() failed>"

end Fault

end RecordPipeline
