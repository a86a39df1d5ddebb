import RecordPipeline.Journal.Line
import RecordPipeline.Journal.Stamp
import RecordPipeline.Journal.Template.Fill
set_option autoImplicit false

namespace RecordPipeline.Journal

structure Report where
  logger : String
  level : Int
  function : Option String
  line : Int
  template : String
  arguments : List Value
  stamp : Stamp
  /-- The formatted text of a fault, there exactly if the report was made with one. -/
  fault : Option String

/-- Why a report has no line. The time is written before the message. -/
inductive ReportFault where
  | stamp (fault : StampFault)
  | template (fault : Template.Fault)
  | value (fault : ValueFault)

def ReportFault.message : ReportFault → String
  | .stamp fault => fault.message
  | .template fault => fault.message
  | .value fault => fault.message

namespace Report

def toLine (pattern : Option String) (r : Report) : Except ReportFault Line := do
  let timestamp ← (r.stamp.text pattern).mapError .stamp
  let message ← (Template.fill r.template r.arguments).mapError .template
  return { timestamp, logger := r.logger, level := r.level, function := r.function, line := r.line,
           message, fault := r.fault }

def text (pattern : Option String) (r : Report) : Except ReportFault String := do
  (← r.toLine pattern).text.mapError .value

end Report

end RecordPipeline.Journal
