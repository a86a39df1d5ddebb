import RecordPipeline.Contract.Issue
import RecordPipeline.Journal.Entry
import RecordPipeline.Text.Split
set_option autoImplicit false

/-!
Checks of data, and contracts on batches. Every contract checks the container first and its content
second; a strict one leaves the content alone when the container is wrong. Input contracts ask for
records, output contracts for typed fields.
-/

namespace RecordPipeline

/-- What data can be checked against: a judgement, which may fail, under a name for the journal. -/
structure Check (ε : Type) where
  name : String
  judge : Value → Except ε Verdict

namespace Check

variable {ε ε' : Type}

def mapError (f : ε → ε') (c : Check ε) : Check ε' :=
  { name := c.name, judge := fun data => (c.judge data).mapError f }

def logger (c : Check ε) : String := "data_contracts." ++ c.name

def openingEntry (c : Check ε) : Entry :=
  .of c.logger .debug ("Starting validation for " ++ c.name)

def closingEntry (c : Check ε) (v : Verdict) : Entry :=
  if !v.isValid then .of c.logger .error (c.name ++ " validation failed: " ++ v.summary)
  else if v.warnings.isEmpty then .of c.logger .debug (c.name ++ " validation passed")
  else
    .of c.logger .warning
      (c.name ++ " validation passed with " ++ String.ofList (Numeral.digits v.warnings.length) ++
        " warnings")

def validate (c : Check ε) (data : Value) : List Entry × Except ε Verdict :=
  match c.judge data with
  | .ok v => ([c.openingEntry, c.closingEntry v], .ok v)
  | .error fault => ([c.openingEntry], .error fault)

theorem snd_validate (c : Check ε) (data : Value) : (c.validate data).2 = c.judge data := by
  unfold validate
  cases c.judge data <;> rfl

end Check

inductive Contract.Kind where
  | input
  | output (fieldTypes : List (Value × Expectation))

structure Contract where
  name : String
  level : Strictness := .strict
  kind : Contract.Kind

namespace Contract

structure Findings where
  errors : List Issue := []
  warnings : List Issue := []
  metadata : List (String × Value) := []

def count (n : Nat) : Value := .int n

def wrongContainer (data : Value) : Issue :=
  { field := "data_type"
    kind := "invalid_type"
    message := "Expected DataFrame or list of records, got " ++ data.typePath
    severity := .strict }

def position (index : Nat) : String := "records[" ++ String.ofList (Numeral.digits index) ++ "]"

def invalidRecord (index : Nat) (record : Value) : Issue :=
  { field := position index
    kind := "invalid_record"
    message := "Expected dict record, got " ++ record.typeName
    severity := .strict
    actual := some record.typeName }

def checkRecords (index : Nat) : List Value → List Issue
  | [] => []
  | .record _ :: rest => checkRecords (index + 1) rest
  | item :: rest => invalidRecord index item :: checkRecords (index + 1) rest

def inputSchema : Value → Findings
  | .table columns rows =>
    { metadata := [("record_count", count rows.length), ("columns", .list (columns.map .text))] }
  | .list xs =>
    { errors := checkRecords 0 xs, metadata := [("record_count", count xs.length)] }
  | data => { errors := [wrongContainer data] }

def emptyBatch : Issue :=
  { field := "data", kind := "empty_data", message := "Record batch is empty", severity := .warning }

def inputContent (data : Value) : Except ValueFault Findings := do
  let size ← data.length
  return { warnings := if size = 0 then [emptyBatch] else [] }

def outputSchema (data : Value) : Findings :=
  match data.batchSize? with
  | some size => { metadata := [("output_record_count", count size)] }
  | none => { errors := [wrongContainer data], metadata := [("output_record_count", .null)] }

def searchItems (container : String) (name : Value) : List Value → Except ValueFault (Option Value)
  | [] => .ok none
  | x :: xs => do if ← x.equal name then throw (.textIsNoPosition container) else searchItems container name xs

def columnsNamed (columns : List String) : Value → Option Value
  | .text name =>
    match columns.count name with
    | 0 => none
    | 1 => some (.unknown .column)
    | _ => some (.unknown .columns)
  | _ => none

/-- Looks a field up in an item that need not be a record. -/
def lookUp (name : Value) : Value → Except ValueFault (Option Value)
  | .record fs => .ok (Value.atKey? name fs)
  | .text s =>
    match name with
    | .text n => if Text.occursIn n.toList s.toList then .error .textIsNoIndex else .ok none
    | name => .error (.textSearchedFor name.typeLabel)
  | .list xs => searchItems "list" name xs
  | .tuple xs => searchItems "tuple" name xs
  | .bytes _ => .error .bytesSearchedForText
  | .table columns _ => .ok (columnsNamed columns name)
  | v => .error (.notSearchable v.typeLabel)

def wrongType (index : Nat) (field : Value) (expected : Expectation) (found : Value) :
    Except ValueFault Issue := do
  let name ← field.plain
  return {
    field := position index ++ "." ++ name
    kind := "wrong_type"
    message := "Field '" ++ name ++ "' has type " ++ found.typeName
    severity := .strict
    actual := some found.typeName
    expected := some expected }

def checkFields (index : Nat) (item : Value) :
    List (Value × Expectation) → Except ValueFault (List Issue)
  | [] => .ok []
  | (field, expected) :: rest => do
    let here ← match ← lookUp field item with
      | none => pure []
      | some v => if expected.accepts v then pure [] else pure [← wrongType index field expected v]
    return here ++ (← checkFields index item rest)

def checkItems (fieldTypes : List (Value × Expectation)) (index : Nat) :
    List Value → Except ValueFault (List Issue)
  | [] => .ok []
  | item :: rest => do
    let here ← checkFields index item fieldTypes
    let others ← checkItems fieldTypes (index + 1) rest
    return here ++ others

/-- Cells of tables are not checked. -/
def outputContent (fieldTypes : List (Value × Expectation)) (data : Value) :
    Except ValueFault Findings := do
  let errors ← match data with
    | .list xs => checkItems fieldTypes 0 xs
    | _ => .ok []
  return { errors, metadata := [("typed_fields", .list (fieldTypes.map Prod.fst))] }

def schema (c : Contract) (data : Value) : Findings :=
  match c.kind with
  | .input => inputSchema data
  | .output _ => outputSchema data

def content (c : Contract) (data : Value) : Except ValueFault Findings :=
  match c.kind with
  | .input => inputContent data
  | .output fieldTypes => outputContent fieldTypes data

/-- A strict contract bears no issue, the other kind no strict one. -/
def accepts (c : Contract) (errors : List Issue) : Bool :=
  match c.level with
  | .strict => errors.isEmpty
  | .warning => errors.all fun i => i.severity ≠ .strict

def issue (c : Contract) (field kind message : String) (severity : Option Strictness) : Issue :=
  { field, kind, message, severity := severity.getD c.level }

def judge (c : Contract) (data : Value) : Except ValueFault Verdict := do
  let first := c.schema data
  let second ←
    if first.errors.isEmpty || c.level ≠ .strict then c.content data else pure {}
  let errors := first.errors ++ second.errors
  return {
    isValid := c.accepts errors
    errors
    warnings := first.warnings ++ second.warnings
    metadata :=
      [("schema_validation", Value.ofFields first.metadata),
        ("content_validation", Value.ofFields second.metadata),
        ("validation_level", .text c.level.name),
        ("data_type", .text data.typeName)] }

def check (c : Contract) : Check ValueFault := { name := c.name, judge := c.judge }

def validate (c : Contract) (data : Value) : List Entry × Except ValueFault Verdict := c.check.validate data

end Contract

end RecordPipeline
