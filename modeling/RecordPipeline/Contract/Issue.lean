import RecordPipeline.Value.Text
import RecordPipeline.Value.Equal
set_option autoImplicit false

namespace RecordPipeline

inductive Strictness where
  | strict
  | warning
  deriving DecidableEq

def Strictness.name : Strictness → String
  | .strict => "strict"
  | .warning => "warning"

/-- Types that a contract can ask of a field. -/
inductive FieldType where
  | int
  | float
  | bool
  | text
  | list
  | record
  | null
  /-- Any other type, with the names of those types whose values are among its instances. -/
  | other (name : String) (instances : List String)
  deriving DecidableEq

namespace FieldType

def name : FieldType → String
  | .int => "int"
  | .float => "float"
  | .bool => "bool"
  | .text => "str"
  | .list => "list"
  | .record => "dict"
  | .null => "NoneType"
  | .other name _ => name

def ofName? : String → Option FieldType
  | "int" => some .int
  | "float" => some .float
  | "bool" => some .bool
  | "str" => some .text
  | "list" => some .list
  | "dict" => some .record
  | "NoneType" => some .null
  | _ => none

/-- Booleans count as integers. -/
def accepts : FieldType → Value → Bool
  | .int, .int _ | .int, .bool _ => true
  | .float, .float _ => true
  | .bool, .bool _ => true
  | .text, .text _ => true
  | .list, .list _ => true
  | .record, .record _ => true
  | .null, .null => true
  | .other _ instances, v => instances.contains v.typeName
  | _, _ => false

end FieldType

inductive Expectation where
  | one (t : FieldType)
  | anyOf (ts : List FieldType)
  deriving DecidableEq

def Expectation.accepts : Expectation → Value → Bool
  | .one t, v => t.accepts v
  | .anyOf ts, v => ts.any fun t => t.accepts v

structure Issue where
  field : String
  kind : String
  message : String
  severity : Strictness
  actual : Option String := none
  expected : Option Expectation := none
  deriving DecidableEq

def Issue.counts (issues : List Issue) : List (String × Nat) :=
  issues.foldl (fun counts i => putNamed i.kind ((counts.lookup i.kind).getD 0 + 1) counts) []

structure Verdict where
  isValid : Bool
  errors : List Issue
  warnings : List Issue
  metadata : List (String × Value)

namespace Verdict

def summaryOf (errors : List Issue) : String :=
  if errors.isEmpty then "No validation errors"
  else
    let parts := (Issue.counts errors).map fun c =>
      Text.quoted c.1 ++ ": " ++ String.ofList (Numeral.digits c.2)
    "Validation errors: " ++ Value.enclosed "\x7b" parts "\x7d"

def summary (v : Verdict) : String := summaryOf v.errors

end Verdict

end RecordPipeline
