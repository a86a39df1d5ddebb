import RecordPipeline.Proofs.Pipeline.Completion
import RecordPipeline.Proofs.Pipeline.Skipping
set_option autoImplicit false

namespace RecordPipeline

namespace Pipeline

def failureUnder (p : Pipeline) (id : String) (fault : Fault) : PipelineError :=
  { message := id ++ " failed: " ++ fault.shown
    pipelineName := p.name
    report := none
    cause := fault }

/-- How a call that failed under a plugin id ends the run. -/
inductive Stops (p : Pipeline) (plugin : Value) (fault : Fault) : Exit → Prop
  | aborted {id : String} (mode : p.mode = .strict) (written : plugin.plain = .ok id) (told : fault.IsTold) :
    Stops p plugin fault (.aborted (p.failureUnder id fault))
  | unnamed {unwritten : ValueFault} (unwritable : plugin.plain = .error unwritten) :
    Stops p plugin fault (.broken (.value unwritten))

section Step

variable {p : Pipeline} {a : Ambient} {plugin : Value} {proc proc' : Processor} {g g' : Progress}

theorem stops_of_step {exit : Exit} (h : p.step a plugin proc g = (proc', g', some exit)) :
    ∃ fault, (p.call plugin proc g).output a = .error fault ∧ Stops p plugin fault exit := by
  cases taken : (p.call plugin proc g).output a with
  | ok output =>
    rw [step_of_output_ok taken] at h
    cases h
  | error fault =>
    refine ⟨fault, rfl, ?_⟩
    rw [step_of_output_error taken] at h
    cases written : plugin.plain with
    | error unwritten =>
      simp only [onFailure, failureOf_of_unnamed written] at h
      cases h
      exact .unnamed written
    | ok id =>
      have told := Call.isTold_of_output taken
      cases mode : p.mode with
      | strict =>
        simp only [onFailure, failureOf_of_told written told, mode] at h
        cases h
        exact .aborted mode written told
      | «continue» =>
        simp only [onFailure, failureOf_of_told written told, mode] at h
        cases h

theorem exists_exit_of_step {fault : Fault} (mode : p.mode = .strict)
    (refused : (p.call plugin proc g).output a = .error fault) :
    ∃ proc' g' exit, p.step a plugin proc g = (proc', g', some exit) ∧ Stops p plugin fault exit := by
  rw [step_of_output_error refused]
  cases written : plugin.plain with
  | error unwritten =>
    simp only [onFailure, failureOf_of_unnamed written]
    exact ⟨_, _, _, rfl, .unnamed written⟩
  | ok id =>
    have told := Call.isTold_of_output refused
    simp only [onFailure, failureOf_of_told written told, mode]
    exact ⟨_, _, _, rfl, .aborted mode written told⟩

theorem exists_output_of_step (mode : p.mode = .strict)
    (h : p.step a plugin proc g = (proc', g', none)) :
    ∃ output, (p.call plugin proc g).output a = .ok output := by
  cases taken : (p.call plugin proc g).output a with
  | ok output => exact ⟨output, rfl⟩
  | error fault =>
    obtain ⟨_, _, _, left, -⟩ := exists_exit_of_step mode taken
    rw [h] at left
    cases left

end Step

section Steps

variable {p : Pipeline} {a : Ambient} {procs procs' : List (Value × Processor)} {g g' : Progress}

theorem calls_cons_of_exit {plugin : Value} {proc proc' : Processor} {exit : Exit}
    (h : p.step a plugin proc g = (proc', g', some exit)) :
    p.calls a ((plugin, proc) :: procs) g = [p.call plugin proc g] := by
  simp only [calls, h]

theorem map_calls (p : Pipeline) (a : Ambient) (procs : List (Value × Processor)) (g : Progress) :
    (p.calls a procs g).map (fun c => (c.plugin, c.processor)) =
      procs.take (p.calls a procs g).length := by
  induction procs generalizing g with
  | nil => rfl
  | cons head rest ih =>
    obtain ⟨plugin, proc⟩ := head
    rcases step : p.step a plugin proc g with ⟨proc', g', _ | exit⟩
    · rw [calls_cons_of_step step, List.map_cons, ih g', List.length_cons, List.take_succ_cons]
      rfl
    · rw [calls_cons_of_exit step]
      rfl

theorem drop_steps (p : Pipeline) (a : Ambient) (procs : List (Value × Processor)) (g : Progress) :
    (p.steps a procs g).1.drop (p.calls a procs g).length =
      procs.drop (p.calls a procs g).length := by
  induction procs generalizing g with
  | nil => rfl
  | cons head rest ih =>
    obtain ⟨plugin, proc⟩ := head
    rcases step : p.step a plugin proc g with ⟨proc', g', _ | exit⟩
    · simp only [calls_cons_of_step step, steps, step, List.length_cons, List.drop_succ_cons]
      exact ih g'
    · simp only [calls_cons_of_exit step, steps, step]
      rfl

/-- Steps that are left are left at their last call. -/
theorem exists_stop_of_steps {exit : Exit} (h : p.steps a procs g = (procs', g', some exit)) :
    ∃ before c fault, p.calls a procs g = before ++ [c] ∧
      (p.mode = .strict → ∀ c' ∈ before, ∃ output, c'.output a = .ok output) ∧
      c.output a = .error fault ∧ Stops p c.plugin fault exit := by
  induction procs generalizing g procs' with
  | nil => cases h
  | cons head rest ih =>
    obtain ⟨plugin, proc⟩ := head
    rcases step : p.step a plugin proc g with ⟨proc₁, g₁, _ | exit₁⟩
    · rcases later : p.steps a rest g₁ with ⟨rest', g₂, exit₂⟩
      simp only [steps, step, later] at h
      cases h
      obtain ⟨before, c, fault, calls, sound, failed, stops⟩ := ih later
      rw [calls_cons_of_step step, calls]
      refine ⟨p.call plugin proc g :: before, c, fault, rfl, fun mode => ?_, failed, stops⟩
      exact List.forall_mem_cons.mpr ⟨exists_output_of_step mode step, sound mode⟩
    · simp only [steps, step] at h
      cases h
      obtain ⟨fault, failed, stops⟩ := stops_of_step step
      exact ⟨[], _, fault, calls_cons_of_exit step, by simp, failed, stops⟩

theorem exists_exit_of_failed (mode : p.mode = .strict) {c : Call} (called : c ∈ p.calls a procs g)
    {fault : Fault} (failed : c.output a = .error fault) :
    ∃ procs' g' exit, p.steps a procs g = (procs', g', some exit) ∧ Stops p c.plugin fault exit := by
  induction procs generalizing g with
  | nil => cases called
  | cons head rest ih =>
    obtain ⟨plugin, proc⟩ := head
    rcases step : p.step a plugin proc g with ⟨proc₁, g₁, _ | exit₁⟩
    · rw [calls_cons_of_step step] at called
      rcases List.mem_cons.mp called with rfl | later
      · obtain ⟨output, taken⟩ := exists_output_of_step mode step
        rw [failed] at taken
        cases taken
      · obtain ⟨rest', g', exit, left, stops⟩ := ih later
        exact ⟨_, g', exit, by simp only [steps, step, left]; rfl, stops⟩
    · rw [calls_cons_of_exit step] at called
      obtain rfl := List.mem_singleton.mp called
      obtain ⟨proc', g', exit, left, stops⟩ := exists_exit_of_step mode failed
      exact ⟨_, g', exit, by simp only [steps, left]; rfl, stops⟩

theorem exists_output_of_steps (mode : p.mode = .strict) (h : p.steps a procs g = (procs', g', none)) :
    ∀ c ∈ p.calls a procs g, ∃ output, c.output a = .ok output := by
  intro c called
  cases taken : c.output a with
  | ok output => exact ⟨output, rfl⟩
  | error fault =>
    obtain ⟨_, _, _, left, -⟩ := exists_exit_of_failed mode called taken
    rw [h] at left
    cases left

theorem exists_length_of_strict (mode : p.mode = .strict) (h : p.steps a procs g = (procs', g', none))
    (sized : ∃ n, g.data.length = .ok n) : ∃ m, g'.data.length = .ok m := by
  refine ((runs_of_steps h).1.fed_of_sized (fun c called out returned => ?_) sized).2
  obtain ⟨⟨out', m⟩, taken⟩ := exists_output_of_steps mode h c called
  obtain ⟨returned', size⟩ := Call.output_eq_ok_iff.mp taken
  rw [returned] at returned'
  cases returned'
  exact ⟨m, size⟩

end Steps

end Pipeline

end RecordPipeline
