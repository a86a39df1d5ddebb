import RecordPipeline.Proofs.CommandLine.Serving
import RecordPipeline.Proofs.Json.Plain
set_option autoImplicit false

namespace RecordPipeline

namespace CommandLine

open FieldMapping (Targets Fields Source)
open Value (IsDict)

section Document

variable {w : Surroundings} {v : Value} {cs : List Char}

end Document

section Deep

variable {w : Surroundings} {r : Request} {ts : Targets} {source : Source} {t : Trail} {fs : Fields}
  {e : ConversionError} (dict : IsDict fs)
  (refusal : FieldMapping.convertRecord ts fs = .error (.refused e)) (deep : letterRoom < (Value.record fs).depth)
  (name : Text.isBlankText w.settings.pipelineName = false) (year : 1000 ≤ w.now.year)
  (routed : w.settings.deadLetterEnabled = true)

include dict refusal deep name year routed

end Deep

end CommandLine

end RecordPipeline
