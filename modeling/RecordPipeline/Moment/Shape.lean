import RecordPipeline.Moment.Pattern.Read
import RecordPipeline.Value.Basic
set_option autoImplicit false

namespace RecordPipeline.Timestamp

def shape : String := "dddd-dd-ddTdd:dd:dd.dddZ"

def pattern : String := "%Y-%m-%dT%H:%M:%S"

def patternLength : Nat := 19

def fits (mark c : Char) : Bool := if mark = 'd' then c.isDigit else c = mark

def hasShape : List Char → List Char → Bool
  | [], [] => true
  | mark :: marks, c :: cs => fits mark c && hasShape marks cs
  | _, _ => false

def accepts : Value → Bool
  | .text s =>
    hasShape shape.toList s.toList && (DatePattern.read? pattern (s.toList.take patternLength)).isSome
  | _ => false

end RecordPipeline.Timestamp
