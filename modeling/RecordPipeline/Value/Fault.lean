import RecordPipeline.Text.Numeral
import RecordPipeline.Text.Quoted
set_option autoImplicit false

namespace RecordPipeline

inductive ValueFault where
  | tooLongToRead (digits : Nat)
  | tooLongToWrite
  | signalingComparison
  | notSized (type : String)
  | notSearchable (type : String)
  | notIterable (type : String)
  | textIsNoIndex
  | textIsNoPosition (container : String)
  | bytesSearchedForText
  | textSearchedFor (type : String)
  | noAttribute (type name : String)
  | notHashable (type : String)
  | signalingKey
  | notAKey (type : String)
  | notANumeral (source : String)
  | noTruthValue
  | tooDeepToShow
  | tooDeepToEncode
  deriving DecidableEq

namespace ValueFault

/-- So many characters of a text that is no numeral are shown. -/
def shownLimit : Nat := 200

def message : ValueFault → String
  | .tooLongToRead n =>
    "Exceeds the limit (4300 digits) for integer string conversion: value has " ++ toString n ++
      " digits; use sys.set_int_max_str_digits() to increase the limit"
  | .tooLongToWrite =>
    "Exceeds the limit (4300 digits) for integer string conversion; " ++
      "use sys.set_int_max_str_digits() to increase the limit"
  | .signalingComparison => "[<class 'decimal.InvalidOperation'>]"
  | .notSized t => s!"object of type '{t}' has no len()"
  | .notSearchable t => s!"argument of type '{t}' is not iterable"
  | .notIterable t => s!"'{t}' object is not iterable"
  | .textIsNoIndex => "string indices must be integers, not 'str'"
  | .textIsNoPosition container => s!"{container} indices must be integers or slices, not str"
  | .bytesSearchedForText => "a bytes-like object is required, not 'str'"
  | .textSearchedFor t => s!"'in <string>' requires string as left operand, not {t}"
  | .noAttribute t name => s!"'{t}' object has no attribute '{name}'"
  | .notHashable t => s!"unhashable type: '{t}'"
  | .signalingKey => "Cannot hash a signaling NaN value"
  | .notAKey t => s!"keys must be str, int, float, bool or None, not {t}"
  | .notANumeral source =>
    "invalid literal for int() with base 10: " ++
      String.ofList ((Text.quotedChars source.toList).take shownLimit)
  | .noTruthValue =>
    "The truth value of a DataFrame is ambiguous. Use a.empty, a.bool(), a.item(), a.any() or a.all()."
  | .tooDeepToShow => "maximum recursion depth exceeded while getting the repr of an object"
  | .tooDeepToEncode => "maximum recursion depth exceeded while encoding a JSON object"

end ValueFault

namespace Numeral

def write (n : Int) : Except ValueFault String :=
  if tooLong n then .error .tooLongToWrite else .ok (String.ofList (signed n))

def readRun (ds : List Char) : Except ValueFault Nat :=
  if digitLimit < ds.length then .error (.tooLongToRead ds.length) else .ok (value ds)

end Numeral

end RecordPipeline
