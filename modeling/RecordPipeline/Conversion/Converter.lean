import RecordPipeline.Conversion.Target
set_option autoImplicit false

/-!
Conversion of values to declared types. Text is read, floats and booleans have rules of their own, and
any other real number is cut to a whole one first, except where it is written as text.
-/

namespace RecordPipeline

inductive SourceKind where
  | text
  | float
  | number
  | boolean
  | unsupported
  deriving DecidableEq

namespace SourceKind

def name : SourceKind → String
  | .text => "text"
  | .float => "float"
  | .number => "number"
  | .boolean => "boolean"
  | .unsupported => "unsupported"

def of : Value → SourceKind
  | .text _ => .text
  | .bool _ => .boolean
  | .float _ => .float
  | .int _ | .decimal _ | .fraction _ => .number
  | _ => .unsupported

end SourceKind

namespace Converter

def numberFormatError (given : Value) (target : TargetType) : ConversionFault :=
  match given.shown with
  | .ok shown => .refused (.numberFormat given target shown)
  | .error fault => .value fault

/-- The whole part of a number; NaNs and infinities have none. -/
def wholePart? : Value → Option Int
  | .int n => some n
  | .float d => d.truncate?
  | .decimal d => d.truncate?
  | .fraction r => some (r.num.tdiv r.den)
  | _ => none

def readInteger? (cs : List Char) : Option Int :=
  let (negative, ds) := Literal.readSign cs
  if Numeral.isRun ds then
    match Numeral.readRun ds with
    | .ok n => some (if negative then -(n : Int) else n)
    | .error _ => none
  else none

def toInteger (given : Value) : Except ConversionFault Value :=
  let found? : Option Int := match given with
    | .text s => readInteger? (Text.trimChars s.toList)
    | .bool b => some (if b then 1 else 0)
    | v => wholePart? v
  match found? with
  | some n => .ok (.int n)
  | none => .error (numberFormatError given .integer)

def toDouble (given : Value) : Except ConversionFault Value :=
  let found? : Option Double := match given with
    | .text s => Double.read? (Text.trimChars s.toList)
    | .bool b => Double.ofInt? (if b then 1 else 0)
    | .float d => some d
    | v => (wholePart? v).bind Double.ofInt?
  match found? with
  | some d => .ok (.float d)
  | none => .error (numberFormatError given .double)

/-- Text is true when it is the word in any case; a number is true unless it is zero. -/
def toBoolean : Value → Except ConversionFault Value
  | .text s => .ok (.bool (s.toLower = "true"))
  | .decimal d => if d.isSignaling then .error (.value .signalingComparison) else .ok (.bool !d.isZero)
  | v => .ok (.bool v.countsAsTrue)

def toText : Value → Except ConversionFault Value
  | .bool b => .ok (.text (if b then "true" else "false"))
  | v => (v.plain.map .text).mapError .value

/-- Converts a value of a supported kind and refuses any other. -/
def convert (target : TargetType) (given : Value) : Except ConversionFault Value :=
  if SourceKind.of given = .unsupported then .error (.refused (.unsupported given target))
  else match target with
    | .integer => toInteger given
    | .double => toDouble given
    | .boolean => toBoolean given
    | .string => toText given

end Converter

end RecordPipeline
