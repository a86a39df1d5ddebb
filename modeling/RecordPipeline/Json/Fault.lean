import RecordPipeline.Value.Fault
set_option autoImplicit false

namespace RecordPipeline.Json

inductive Problem where
  | noValue
  | noPropertyName
  | noColon
  | noComma
  | extraData
  | unterminatedText
  | controlCharacter
  | escape
  | codeEscape
  | byteOrderMark
  deriving DecidableEq

def Problem.message : Problem → String
  | .noValue => "Expecting value"
  | .noPropertyName => "Expecting property name enclosed in double quotes"
  | .noColon => "Expecting ':' delimiter"
  | .noComma => "Expecting ',' delimiter"
  | .extraData => "Extra data"
  | .unterminatedText => "Unterminated string starting at"
  | .controlCharacter => "Invalid control character at"
  | .escape => "Invalid \\escape"
  | .codeEscape => "Invalid \\uXXXX escape"
  | .byteOrderMark => "Unexpected UTF-8 BOM (decode using utf-8-sig)"

inductive Container where
  | array
  | object
  deriving DecidableEq

def Container.name : Container → String
  | .array => "array"
  | .object => "object"

/-- Why reading stops. A place is what remains of the document from there on. -/
inductive Stop where
  | at (problem : Problem) (place : List Char)
  /-- Half a surrogate pair stands alone in a text, and there is no value for such a text. -/
  | unpaired
  | tooDeep (container : Container)
  | value (fault : ValueFault)

inductive Fault where
  | malformed (problem : Problem) (position line column : Nat)
  | unpaired
  | tooDeep (container : Container)
  | value (fault : ValueFault)
  deriving DecidableEq

namespace Fault

def message : Fault → String
  | .malformed problem position line column =>
    problem.message ++ ": line " ++ String.ofList (Numeral.digits line) ++ " column " ++
      String.ofList (Numeral.digits column) ++ " (char " ++ String.ofList (Numeral.digits position) ++ ")"
  | .unpaired => "surrogates not allowed"
  | .tooDeep container =>
    "maximum recursion depth exceeded while decoding a JSON " ++ container.name ++
      " from a unicode string"
  | .value fault => fault.message

def ofStop (document : List Char) : Stop → Fault
  | .at problem place =>
    let before := document.take (document.length - place.length)
    let lastLine := before.reverse.takeWhile (· ≠ '\n')
    .malformed problem before.length (before.count '\n' + 1) (lastLine.length + 1)
  | .unpaired => .unpaired
  | .tooDeep container => .tooDeep container
  | .value fault => .value fault

end Fault

end RecordPipeline.Json
