import RecordPipeline.Decimal
import RecordPipeline.Value.Fault
set_option autoImplicit false

/-!
Values that cells of records hold. A record is an ordered list of fields whose keys are values and
differ pairwise; a table holds rows of cells under text columns.
-/

namespace RecordPipeline

/-- Types of things that are not looked into. What is taken out of a table is one or more of its
columns. -/
inductive ForeignType where
  | object
  | column
  | columns
  deriving DecidableEq

def ForeignType.name : ForeignType → String
  | .object => "object"
  | .column => "Series"
  | .columns => "DataFrame"

inductive Value where
  | null
  | bool (b : Bool)
  | text (s : String)
  | int (n : Int)
  | float (d : Double)
  | decimal (d : Decimal)
  | fraction (r : Rat)
  | complex (re im : Double)
  | bytes (bs : List UInt8)
  | list (xs : List Value)
  | tuple (xs : List Value)
  | record (fields : List (Value × Value))
  | table (columns : List String) (rows : List (List Value))
  /-- Something of which only the type is known; no two of them are equal. -/
  | unknown (type : ForeignType)
  deriving Inhabited

namespace Value

def typeName : Value → String
  | .null => "NoneType"
  | .bool _ => "bool"
  | .text _ => "str"
  | .int _ => "int"
  | .float _ => "float"
  | .decimal _ => "Decimal"
  | .fraction _ => "Fraction"
  | .complex _ _ => "complex"
  | .bytes _ => "bytes"
  | .list _ => "list"
  | .tuple _ => "tuple"
  | .record _ => "dict"
  | .table _ _ => "DataFrame"
  | .unknown type => type.name

def typeLabel : Value → String
  | .decimal _ => "decimal.Decimal"
  | v => v.typeName

def typePath (v : Value) : String :=
  let path := match v with
    | .decimal _ => "decimal.Decimal"
    | .fraction _ => "fractions.Fraction"
    | .table _ _ => "pandas.core.frame.DataFrame"
    | v => v.typeName
  "<class '" ++ path ++ "'>"

def ofFields (fields : List (String × Value)) : Value :=
  .record (fields.map fun f => (.text f.1, f.2))

/-- Rows of a table as records in column order. A table without columns has none. -/
def tableRecords (columns : List String) (rows : List (List Value)) : List (List (Value × Value)) :=
  if columns.isEmpty then [] else rows.map fun cells => (columns.map Value.text).zip cells

mutual

def depth : Value → Nat
  | .list xs | .tuple xs => depthAll xs + 1
  | .record fs => depthFields fs + 1
  | _ => 0

def depthAll : List Value → Nat
  | [] => 0
  | x :: xs => max (depth x) (depthAll xs)

def depthFields : List (Value × Value) → Nat
  | [] => 0
  | (k, v) :: fs => max (max (depth k) (depth v)) (depthFields fs)

end

def length : Value → Except ValueFault Nat
  | .text s => .ok s.length
  | .bytes bs => .ok bs.length
  | .list xs | .tuple xs => .ok xs.length
  | .record fs => .ok fs.length
  | .table _ rows => .ok rows.length
  | v => .error (.notSized v.typeLabel)

def batchSize? : Value → Option Nat
  | .list xs => some xs.length
  | .table _ rows => some rows.length
  | _ => none

def countsAsTrue : Value → Bool
  | .null => false
  | .bool b => b
  | .text s => s ≠ ""
  | .int n => n ≠ 0
  | .float d => !d.isZero
  | .decimal d => !d.isZero
  | .fraction r => r ≠ 0
  | .complex re im => !(re.isZero && im.isZero)
  | .bytes bs => !bs.isEmpty
  | .list xs | .tuple xs => !xs.isEmpty
  | .record fs => !fs.isEmpty
  | .table _ _ => true
  | .unknown _ => true

/-- The items a value yields one by one: a record its keys, and a table the names of its columns. -/
def items : Value → Except ValueFault (List Value)
  | .list xs | .tuple xs => .ok xs
  | .text s => .ok (s.toList.map fun c => .text (String.singleton c))
  | .bytes bs => .ok (bs.map fun b => .int b.toNat)
  | .record fs => .ok (fs.map Prod.fst)
  | .table columns _ => .ok (columns.map .text)
  | v => .error (.notIterable v.typeLabel)

end Value

end RecordPipeline
