import RecordPipeline.Processor.FieldMapping
import RecordPipeline.Proofs.Scene
set_option autoImplicit false

namespace RecordPipeline

theorem Identity.quiet_logger (i : Identity) (severity : Severity) (message : String) :
    (Entry.of i.logger severity message).Quiet :=
  append_ne_deadLetterLogger (by decide) i.name

namespace Work

/-- A property of the operations that processors are made of, and of what they compose to. -/
structure Composes (P : {α : Type} → Work α → Prop) : Prop where
  pure {α : Type} (v : α) : P (Pure.pure v : Work α)
  throw {α : Type} (fault : Fault) : P (MonadExcept.throw fault : Work α)
  bind {α β : Type} {x : Work α} {f : α → Work β} : P x → (∀ v, P (f v)) → P (x >>= f)
  note {e : Entry} (quiet : e.Quiet) : P (Work.note e)
  addError (message : String) : P (Work.addError message)
  addWarning (message : String) : P (Work.addWarning message)
  metric (key : String) (v : Value) : P (Work.change (·.addMetric key v))
  recordsIn (n : Nat) : P (Work.change fun c =>
    { c with metadata := { c.metadata with recordsIn := some n } })
  recordsProcessed (n : Nat) : P (Work.change fun c =>
    { c with metadata := { c.metadata with recordsProcessed := some n } })

end Work

section Composed

variable {P : {α : Type} → Work α → Prop}

namespace Work.Composes

theorem forM (composes : Composes P) {ι : Type} {xs : List ι} {g : ι → Work Unit}
    (h : ∀ i ∈ xs, P (g i)) : P (xs.forM g) := by
  induction xs with
  | nil => exact composes.pure ()
  | cons i xs ih =>
    exact composes.bind (h i List.mem_cons_self) fun _ =>
      ih fun j hj => h j (List.mem_cons_of_mem _ hj)

end Work.Composes

namespace Processor

theorem quiet_validate (c : Check Fault) (data : Value) : ∀ e ∈ (c.validate data).1, e.Quiet := by
  have quiet (severity : Severity) (message : String) :
      (Entry.of c.logger severity message).Quiet :=
    append_ne_deadLetterLogger (by decide) c.name
  unfold Check.validate
  split
  · have closing (v : Verdict) : (c.closingEntry v).Quiet := by
      unfold Check.closingEntry
      split
      · exact quiet _ _
      · split <;> exact quiet _ _
    simp only [List.forall_mem_cons]
    exact ⟨quiet _ _, closing _, by simp⟩
  · simp only [List.forall_mem_cons]
    exact ⟨quiet _ _, by simp⟩

end Processor

namespace Work.Composes

open Processor

theorem report (composes : Composes P) (side : Side) (v : Verdict) : P (Processor.report side v) :=
  composes.bind (composes.forM fun _ _ => composes.addError _) fun _ =>
    composes.bind (composes.forM fun _ _ => composes.addWarning _) fun _ => composes.metric _ _

theorem hold (composes : Composes P) (p : Processor) (side : Side) (check : Option (Check Fault))
    (data : Value) : P (p.hold side check data) := by
  cases check with
  | none => exact composes.pure ()
  | some c =>
    simp only [Processor.hold]
    have entries := quiet_validate c data
    rcases validated : c.validate data with ⟨es, outcome⟩
    rw [validated] at entries
    refine composes.bind (composes.note (p.quiet_logger _ _)) fun _ =>
      composes.bind (composes.forM fun e he => composes.note (entries e he)) fun _ => ?_
    cases outcome with
    | error fault => exact composes.throw _
    | ok v =>
      refine composes.bind (composes.report side v) fun _ => ?_
      split
      · exact composes.throw _
      · exact composes.pure ()

theorem prepare (composes : Composes P) (p : Processor) (data : Value) : P (p.prepare data) := by
  refine composes.bind (composes.note (p.quiet_logger _ _)) fun _ =>
    composes.bind (composes.hold p _ _ _) fun _ =>
      composes.bind ?_ fun _ => composes.note (p.quiet_logger _ _)
  unfold countIn
  split
  · exact composes.recordsIn _
  · exact composes.pure ()

theorem release (composes : Composes P) (p : Processor) (out : Value) : P (p.release out) := by
  refine composes.bind ?_ fun _ => composes.hold p _ _ _
  unfold countOut
  split
  · exact composes.recordsProcessed _
  · exact composes.pure ()

end Work.Composes

namespace FieldMapping

open Work (Composes)

variable {i : Identity} {a : Ambient}

theorem convertAll_composes (composes : Composes P) (handsOver : ∀ payload, P (i.failRecord a payload))
    (ts : Targets) (records : List Fields) : P (convertAll i a ts records) := by
  induction records with
  | nil => exact composes.pure _
  | cons fs rest ih =>
    simp only [convertAll]
    split
    · exact composes.bind ih fun _ => composes.pure _
    · exact composes.bind (composes.note (i.quiet_logger _ _)) fun _ =>
        composes.bind (handsOver _) fun _ => ih
    · exact composes.throw _

theorem core_composes (composes : Composes P) (handsOver : ∀ payload, P (i.failRecord a payload))
    (ts : Targets) (data : Value) : P (core i ts a data) := by
  unfold core
  split
  · exact composes.throw _
  · refine composes.bind (composes.note (i.quiet_logger _ _)) fun _ =>
      composes.bind (convertAll_composes composes handsOver ts _) fun _ => ?_
    exact composes.bind (composes.metric _ _) fun _ =>
      composes.bind (composes.metric _ _) fun _ => composes.pure _

end FieldMapping

end Composed

end RecordPipeline
