import RecordPipeline.Proofs.FieldMapping.Leak
import RecordPipeline.Proofs.Json.Native
import RecordPipeline.Proofs.Settings.Mappings
set_option autoImplicit false

namespace RecordPipeline

namespace Json

variable {room : Nat} {v : Value}

end Json

namespace FieldMapping

open Json (Native)
open Value (IsDict)

section Declared

variable {s : Settings} {ts : Targets}

end Declared

section Batch

variable {room : Nat} {ts : Targets} {fs : Fields} {records : List Fields}

end Batch

end FieldMapping

end RecordPipeline
