import RecordPipeline.Proofs.Pipeline.Calls
import RecordPipeline.Proofs.Plugin.Gate
import RecordPipeline.Proofs.Value.Key
set_option autoImplicit false

namespace RecordPipeline

namespace Pipeline

open Value (IsDict)

inductive Reached : Pipeline → Prop
  | made {p : Pipeline} (empty : p.processors = []) : Reached p
  | registered {p : Pipeline} (earlier : Reached p) (proc : Processor) : Reached (p.register proc).2.1
  | ran {p : Pipeline} (earlier : Reached p) (a : Ambient) (records : Option Value) (t : Trail) :
    Reached (p.run a records t).2.1

section Register

variable {p : Pipeline} {proc : Processor}

/-- All that a registration can do: it is accepted for its version and its key, and then the
processor stands under its plugin id; otherwise the pipeline stays as it is. -/
theorem register_cases (p : Pipeline) (proc : Processor) :
    ((p.activator.Admits proc.pipelineVersion ∧ proc.pluginId.keyFault? = none) ∧ (p.register proc).1 = .ok () ∧
      (p.register proc).2.1 = { p with processors := Value.putEntry proc.pluginId proc p.processors }) ∨
    ¬ (p.activator.Admits proc.pipelineVersion ∧ proc.pluginId.keyFault? = none) ∧
      ∃ fault, (p.register proc).1 = .error fault ∧ (p.register proc).2.1 = p := by
  have admits : (p.activator.activate proc.descriptor).2 = .ok proc.descriptor ↔
      p.activator.Admits proc.pipelineVersion := by
    rw [Activator.activate_eq_ok_iff]
    exact and_iff_right rfl
  rcases gate : p.activator.activate proc.descriptor with ⟨entries, fault | d⟩
  · have refused : ¬ p.activator.Admits proc.pipelineVersion := by
      rw [← admits, gate]
      simp
    exact .inr ⟨fun h => refused h.1, fault, by simp only [register, gate], by simp only [register, gate]⟩
  · have admitted : p.activator.Admits proc.pipelineVersion :=
      (Activator.activate_eq_ok_iff.mp (congrArg Prod.snd gate)).2
    cases key : proc.pluginId.keyFault? with
    | some fault =>
      exact .inr ⟨by simp, .value fault, by simp only [register, gate, key], by simp only [register, gate, key]⟩
    | none =>
      exact .inl ⟨⟨admitted, rfl⟩, by simp only [register, gate, key], by simp only [register, gate, key]⟩

theorem register_eq_ok_iff :
    (p.register proc).1 = .ok () ↔ p.activator.Admits proc.pipelineVersion ∧ proc.pluginId.keyFault? = none := by
  obtain ⟨admitted, accepted, -⟩ | ⟨kept, fault, refused, -⟩ := p.register_cases proc
  · exact iff_of_true accepted admitted
  · exact iff_of_false (by simp [refused]) kept

theorem register_of_ok (accepted : (p.register proc).1 = .ok ()) :
    (p.register proc).2.1 = { p with processors := Value.putEntry proc.pluginId proc p.processors } := by
  obtain ⟨-, -, left⟩ | ⟨-, fault, refused, -⟩ := p.register_cases proc
  · exact left
  · cases accepted.symm.trans refused

theorem register_of_error {fault : ActivationFault} (refused : (p.register proc).1 = .error fault) :
    (p.register proc).2.1 = p := by
  obtain ⟨-, accepted, -⟩ | ⟨-, -, -, left⟩ := p.register_cases proc
  · cases accepted.symm.trans refused
  · exact left

theorem isDict_register (h : IsDict p.processors) (proc : Processor) : IsDict (p.register proc).2.1.processors := by
  obtain ⟨⟨-, key⟩, -, left⟩ | ⟨-, -, -, left⟩ := p.register_cases proc
  · rw [left]
    exact h.put key proc
  · rw [left]
    exact h

end Register

theorem map_fst_steps (p : Pipeline) (a : Ambient) (procs : List (Value × Processor)) (g : Progress) :
    (p.steps a procs g).1.map Prod.fst = procs.map Prod.fst := by
  induction procs generalizing g with
  | nil => rfl
  | cons head rest ih =>
    obtain ⟨plugin, proc⟩ := head
    rcases step : p.step a plugin proc g with ⟨proc', g', _ | exit⟩
    · simp [steps, step, ih g']
    · simp [steps, step]

theorem processors_execute (p : Pipeline) (a : Ambient) (records : Option Value) (r : PipelineResult)
    (t : Trail) : (p.execute a records r t).2.2.1 = p.processors ∨
      ∃ g, (p.execute a records r t).2.2.1 = (p.steps a p.processors g).1 := by
  cases records with
  | none => exact .inl rfl
  | some data =>
    cases sized : data.length with
    | error fault => exact .inl (by simp only [execute, sized])
    | ok n =>
      refine .inr ⟨{ data, context := { pipelineName := .text p.name, sink := p.sink }
                     result := { r with totalItems := n }, trail := t }, ?_⟩
      simp only [execute, sized]
      split
      · rename_i steps
        rw [steps]
      · rename_i steps
        rw [steps]
        split <;> rfl

theorem run_eq (p : Pipeline) (a : Ambient) (records : Option Value) (t : Trail) :
    ∃ procs r, (p.run a records t).2.1 = { p with processors := procs, result := some r } ∧
      (procs = p.processors ∨ ∃ g, procs = (p.steps a p.processors g).1) := by
  let starting := Entry.of p.logger .info ("Starting pipeline: " ++ p.name ++ " (ID: " ++ p.runId a ++ ")")
  have left := p.processors_execute a records { pipelineId := p.runId a, startTime := a.now }
    (t.note starting)
  rcases executed : p.execute a records { pipelineId := p.runId a, startTime := a.now }
    (t.note starting) with ⟨_ | exit, r, processors, t'⟩
  · rw [executed] at left
    simp only [starting] at executed
    simp only [run, executed]
    exact ⟨_, _, rfl, left⟩
  · rw [executed] at left
    simp only [starting] at executed
    simp only [run, executed]
    exact ⟨_, _, rfl, left⟩

theorem map_fst_run (p : Pipeline) (a : Ambient) (records : Option Value) (t : Trail) :
    (p.run a records t).2.1.processors.map Prod.fst = p.processors.map Prod.fst := by
  obtain ⟨procs, r, left, rfl | ⟨g, rfl⟩⟩ := p.run_eq a records t
  · rw [left]
  · rw [left]
    exact p.map_fst_steps a p.processors g

/-- Whatever registrations and runs leave, its plugin ids are keys and differ, as what is said of the
reports of a run asks. -/
theorem Reached.isDict {p : Pipeline} (h : Reached p) : IsDict p.processors := by
  induction h with
  | made empty =>
    rw [empty]
    exact ⟨by simp, .nil⟩
  | registered _ proc ih => exact isDict_register ih proc
  | ran _ a records t ih => exact ih.of_map_fst_eq (map_fst_run _ a records t)

end Pipeline

end RecordPipeline
