import RecordPipeline.Json.Writer
set_option autoImplicit false

namespace RecordPipeline.Journal

def levelName : Int → String
  | 50 => "CRITICAL"
  | 40 => "ERROR"
  | 30 => "WARNING"
  | 20 => "INFO"
  | 10 => "DEBUG"
  | 0 => "NOTSET"
  | n => "Level " ++ String.ofList (Numeral.signed n)

def faultText (kind message : String) : String := if message = "" then kind else kind ++ ": " ++ message

structure Line where
  timestamp : String
  logger : String
  level : Int
  function : Option String
  line : Int
  message : String
  /-- The formatted text of the fault that was reported, if one was. -/
  fault : Option String
  deriving DecidableEq

namespace Line

def toValue (l : Line) : Value :=
  Value.ofFields <|
    [("timestamp", .text l.timestamp), ("logger", .text l.logger), ("level", .text (levelName l.level)),
      ("function", (l.function.map Value.text).getD .null), ("line", .int l.line),
      ("message", .text l.message)] ++
      (l.fault.map fun f => ("exception", Value.text f)).toList

def text (l : Line) : Except ValueFault String := Json.encode l.toValue

end Line

end RecordPipeline.Journal
