import RecordPipeline.Text.Blank
import RecordPipeline.Value.Text
set_option autoImplicit false

namespace RecordPipeline

inductive TargetType where
  | integer
  | double
  | boolean
  | string
  deriving DecidableEq

namespace TargetType

def name : TargetType → String
  | .integer => "integer"
  | .double => "double"
  | .boolean => "boolean"
  | .string => "string"

def converterText (t : TargetType) : String :=
  let title := match t with
    | .integer => "Integer"
    | .double => "Double"
    | .boolean => "Boolean"
    | .string => "String"
  "<" ++ title ++ "Converter(target_type='" ++ t.name ++ "')>"

def ofLowerName? : String → Option TargetType
  | "integer" | "int" => some .integer
  | "double" | "float" => some .double
  | "boolean" | "bool" => some .boolean
  | "string" | "str" => some .string
  | _ => none

/-- Case and surrounding blanks do not count. Lowering ASCII letters is enough, since no other letter
has one of these names' letters alone as its lower-case form. -/
def ofName? (name : String) : Option TargetType := ofLowerName? (Text.trim name).toLower

@[simp] theorem ofLowerName?_name (t : TargetType) : ofLowerName? t.name = some t := by
  cases t <;> rfl

end TargetType

inductive ConversionError where
  | numberFormat (given : Value) (target : TargetType) (shown : String)
  | unsupported (given : Value) (target : TargetType)
  | unknownTarget (name : String)
  | noTargetName (given : Value) (shown : String)

namespace ConversionError

def message : ConversionError → String
  | .numberFormat _ target shown => "Cannot convert " ++ shown ++ " to " ++ target.name
  | .unsupported given target =>
    "Unsupported type conversion from " ++ given.typeName ++ " to " ++ target.name
  | .unknownTarget name => "Unknown target type: '" ++ name ++ "'"
  | .noTargetName _ shown => "Invalid target type name: " ++ shown

def given : ConversionError → Value
  | .numberFormat v _ _ | .unsupported v _ | .noTargetName v _ => v
  | .unknownTarget name => .text name

def target? : ConversionError → Option TargetType
  | .numberFormat _ t _ | .unsupported _ t => some t
  | _ => none

end ConversionError

/-- A conversion ends in a refusal, or in a fault of the operations it is made of. -/
inductive ConversionFault where
  | refused (error : ConversionError)
  | value (fault : ValueFault)

namespace ConversionFault

def message : ConversionFault → String
  | .refused error => error.message
  | .value fault => fault.message

end ConversionFault

def TargetType.ofValue (given : Value) : Except ConversionFault TargetType :=
  match given with
  | .text name =>
    match ofName? name with
    | some t => .ok t
    | none => .error (.refused (.unknownTarget name))
  | _ =>
    match given.shown with
    | .ok shown => .error (.refused (.noTargetName given shown))
    | .error fault => .error (.value fault)

end RecordPipeline
