import RecordPipeline.Conversion.Converter
import RecordPipeline.Processor.Basic
set_option autoImplicit false

namespace RecordPipeline

namespace FieldMapping

inductive Source where
  | settings
  | fields (declared : List (Value × Value))
  | other (v : Value)

abbrev Targets := List (Value × TargetType)

def resolve : List (Value × Value) → Except ConversionFault Targets
  | [] => .ok []
  | (field, declared) :: rest => do
    let t ← TargetType.ofValue declared
    return (field, t) :: (← resolve rest)

def fieldType : TargetType → FieldType
  | .integer => .int
  | .double => .float
  | .boolean => .bool
  | .string => .text

def inputContract : Contract := { name := "field_mapping_input", kind := .input }

def outputContract (ts : Targets) : Contract :=
  { name := "field_mapping_output"
    kind := .output (ts.map fun t => (t.1, .one (fieldType t.2))) }

abbrev Fields := List (Value × Value)

/-- Converts the declared fields that a record has and leaves everything else as it is. -/
def convertRecord : Targets → Fields → Except ConversionFault Fields
  | [], fs => .ok fs
  | (field, t) :: rest, fs =>
    match Value.atKey? field fs with
    | none => convertRecord rest fs
    | some v => do convertRecord rest (Value.putEntry field (← Converter.convert t v) fs)

def failedEntry (i : Identity) (e : ConversionError) : Entry :=
  .of i.logger .warning ("Record failed field mapping: " ++ e.message)

/-- Converts records in order. A refused one goes onto the dead-letter path as it came. -/
def convertAll (i : Identity) (a : Ambient) (ts : Targets) : List Fields → Work (List Fields)
  | [] => return []
  | fs :: rest => do
    match convertRecord ts fs with
    | .ok converted => return converted :: (← convertAll i a ts rest)
    | .error (.refused e) =>
      Work.note (failedEntry i e)
      i.failRecord a (.record fs)
      convertAll i a ts rest
    | .error (.value fault) => throw (.value fault)

/-- The records of a batch: its rows, or its items if all of them are records. -/
def recordsOf : Value → Except ValueFault (List Fields)
  | .table columns rows => .ok (Value.tableRecords columns rows)
  | .list items => items.mapM fun item => match item with
    | .record fs => .ok fs
    | item => .error (.notIterable item.typeLabel)
  | data => .error (.notIterable data.typeLabel)

def cellsOf (columns : List String) (fs : Fields) : List Value :=
  columns.map fun name => (Value.field? name fs).getD (.float .nan)

def sameForm (data : Value) (records : List Fields) : Value :=
  match data with
  | .table columns _ => .table columns (records.map (cellsOf columns))
  | _ => .list (records.map .record)

def countMetric (n : Nat) : Value := .int n

def startEntry (i : Identity) (ts : Targets) (records : List Fields) : Entry :=
  .of i.logger .info
    ("Mapping " ++ String.ofList (Numeral.digits ts.length) ++ " fields on " ++
      String.ofList (Numeral.digits records.length) ++ " records")

def core (i : Identity) (ts : Targets) (a : Ambient) (data : Value) : Work Value := do
  match recordsOf data with
  | .error fault => throw (.value fault)
  | .ok records =>
    Work.note (startEntry i ts records)
    let converted ← convertAll i a ts records
    Work.change (·.addMetric "records_converted" (countMetric converted.length))
    Work.change (·.addMetric "records_dead_lettered" (countMetric (records.length - converted.length)))
    return sameForm data converted

def processorName : String := "field_mapping"

def declared (s : Settings) : Source → Except Fault (List (Value × Value))
  | .settings => .ok (s.fieldMappings.map fun m => (.text m.1, .text m.2))
  | .fields fs => .ok (fs.foldl (fun found f => Value.putEntry f.1 f.2 found) [])
  | .other v => .error (.value (.noAttribute v.typeLabel "items"))

def targets (s : Settings) (source : Source) : Except Fault Targets := do
  (resolve (← declared s source)).mapError Fault.ofConversion

def identity (pluginId pipelineVersion : Value) : Identity :=
  Identity.make processorName "1.0.0" pluginId pipelineVersion

def setEntries (i : Identity) (ts : Targets) : List Entry :=
  [i.inputSetEntry inputContract, i.outputSetEntry (outputContract ts)]

def declaredIn (config : Value) : Except ValueFault Value :=
  match config with
  | .record fs => .ok ((Value.field? "field_mappings" fs).getD (.record []))
  | v => .error (.noAttribute v.typeLabel "get")

def allNamed : List (Value × Value) → Except ConversionFault Unit
  | [] => .ok ()
  | (_, declared) :: rest => do
    let _ ← TargetType.ofValue declared
    allNamed rest

def validateConfig (config : Value) : Except ValueFault Bool := do
  match ← declaredIn config with
  | .record fs =>
    match allNamed fs with
    | .ok () => return true
    | .error (.refused _) => return false
    | .error (.value fault) => throw fault
  | v => throw (.noAttribute v.typeLabel "values")

def processor (i : Identity) (ts : Targets) : Processor :=
  { i with
    kind := "FieldMappingProcessor"
    input := some inputContract.inWork
    output := some (outputContract ts).inWork
    core := core i ts
    validateConfig }

end FieldMapping

end RecordPipeline
