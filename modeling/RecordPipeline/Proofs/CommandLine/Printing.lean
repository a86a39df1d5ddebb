import Mathlib.Data.List.Forall2
import RecordPipeline.CommandLine.Run
import RecordPipeline.Proofs.FieldMapping.Document
import RecordPipeline.Proofs.Json.Written
set_option autoImplicit false

namespace RecordPipeline

namespace CommandLine

open FieldMapping (Fields)
open Json (Native)

section Letter

variable {room : Nat} {i : Identity} {pluginId pipelineName : String} {now : Moment} {fs : Fields}

end Letter

end CommandLine

end RecordPipeline
