import RecordPipeline.Proofs.Json.Native
import RecordPipeline.Settings
set_option autoImplicit false

namespace RecordPipeline

namespace FieldMappings

end FieldMappings

namespace Settings

end Settings

end RecordPipeline
