import RecordPipeline.Text.Blank
import RecordPipeline.Text.Split
import RecordPipeline.Value.Equal
set_option autoImplicit false

namespace RecordPipeline

abbrev Environment := List (String × String)

namespace Environment

def get (e : Environment) (name unset : String) : String := (e.lookup name).getD unset

def isOn (e : Environment) (name : String) : Bool := (e.get name "true").toLower = "true"

end Environment

inductive SettingsFault where
  | mappingWithoutType (entry : String)
  deriving DecidableEq

def SettingsFault.message : SettingsFault → String
  | .mappingWithoutType entry => "Invalid field mapping entry: '" ++ entry ++ "'"

namespace FieldMappings

def readEntry (cs : List Char) : Except SettingsFault (Option (String × String)) :=
  let entry := Text.trimChars cs
  if entry.isEmpty then .ok none
  else match Text.cut ':' entry with
    | (field, some (c :: typeName)) =>
      .ok (some (String.ofList (Text.trimChars field), String.ofList (Text.trimChars (c :: typeName))))
    | _ => .error (.mappingWithoutType (String.ofList entry))

/-- Entries from left to right; a field that is named again keeps its place and takes the new type. -/
def readEntries (found : List (String × String)) :
    List (List Char) → Except SettingsFault (List (String × String))
  | [] => .ok found
  | cs :: rest => do
    match ← readEntry cs with
    | none => readEntries found rest
    | some (field, typeName) => readEntries (putNamed field typeName found) rest

def read (raw : String) : Except SettingsFault (List (String × String)) :=
  readEntries [] (Text.splitAll ',' raw.toList)

end FieldMappings

structure Settings where
  pipelineName : String
  enforceVersions : Bool
  deadLetterEnabled : Bool
  fieldMappings : List (String × String)
  deriving DecidableEq

namespace Settings

def withMappings (e : Environment) (fieldMappings : List (String × String)) : Settings :=
  { pipelineName := e.get "PIPELINE_NAME" "telemetry-pipeline"
    enforceVersions := e.isOn "ENFORCE_PLUGIN_VERSIONS"
    deadLetterEnabled := e.isOn "DEAD_LETTER_ENABLED"
    fieldMappings }

def readMappings (e : Environment) : Except SettingsFault (List (String × String)) :=
  FieldMappings.read (e.get "FIELD_MAPPINGS" "")

def read (e : Environment) : Except SettingsFault Settings := do
  return withMappings e (← readMappings e)

/-- Settings after the environment has changed. Mappings that cannot be read are reported, and the
earlier ones stay in force. -/
def reread (s : Settings) (e : Environment) : Option SettingsFault × Settings :=
  match readMappings e with
  | .ok fieldMappings => (none, withMappings e fieldMappings)
  | .error fault => (some fault, withMappings e s.fieldMappings)

def unset : Settings := ⟨"telemetry-pipeline", true, true, []⟩

instance : Inhabited Settings := ⟨unset⟩

end Settings

end RecordPipeline
