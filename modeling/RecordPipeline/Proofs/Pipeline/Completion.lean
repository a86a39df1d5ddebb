import RecordPipeline.Proofs.Pipeline.Calls
set_option autoImplicit false

namespace RecordPipeline

namespace Pipeline

section Status

theorem status_onFailure (p : Pipeline) (plugin : Value) (fault : Fault) (g : Progress) :
    (p.onFailure plugin fault g).1.result.status = g.result.status := by
  unfold onFailure
  split
  · rfl
  · cases p.mode <;> rfl

theorem status_step (p : Pipeline) (a : Ambient) (plugin : Value) (proc : Processor) (g : Progress) :
    (p.step a plugin proc g).2.1.result.status = g.result.status := by
  cases taken : (p.call plugin proc g).output a with
  | ok output =>
    rw [step_of_output_ok taken]
    rfl
  | error fault =>
    rw [step_of_output_error taken]
    exact status_onFailure p plugin fault _

theorem status_steps (p : Pipeline) (a : Ambient) (procs : List (Value × Processor)) (g : Progress) :
    (p.steps a procs g).2.1.result.status = g.result.status := by
  induction procs generalizing g with
  | nil => rfl
  | cons head rest ih =>
    obtain ⟨plugin, proc⟩ := head
    have first := p.status_step a plugin proc g
    rcases step : p.step a plugin proc g with ⟨proc', g', _ | exit⟩
    · rw [step] at first
      simp only [steps, step, ih g']
      exact first
    · rw [step] at first
      simpa only [steps, step] using first

end Status

def Progress.completed (g : Progress) (a : Ambient) (m : Nat) : PipelineResult :=
  { g.result with
    output := g.data
    processedItems := m
    failedItems := g.context.metadata.recordsFailed
    failureRecords := g.context.failureRecords
    errors := g.result.errors ++ g.context.errors }.complete a.later "completed"

def failedResult (a : Ambient) (r : PipelineResult) (exit : Exit) : PipelineResult :=
  (r.complete a.later "failed").addError ("Pipeline execution failed: " ++ exit.message)

/-- What a run leaves that makes its steps from somewhere. -/
inductive Ended (p : Pipeline) (a : Ambient) (start : Progress) :
    Except PipelineError PipelineResult → Pipeline → Trail → Prop
  | returned {procs : List (Value × Processor)} {g : Progress} {m : Nat}
      (steps : p.steps a p.processors start = (procs, g, none)) (sized : g.data.length = .ok m) :
      Ended p a start (.ok (g.completed a m))
        { p with processors := procs, result := some (g.completed a m) }
        ((g.trail.note (.of p.logger .info "Pipeline completed: completed")).noteAll
          (p.failedItemsEntries (g.completed a m)))
  | stopped {procs : List (Value × Processor)} {g : Progress} {exit : Exit}
      (steps : p.steps a p.processors start = (procs, g, some exit)) :
      Ended p a start (.error (p.errorOf (failedResult a g.result exit) exit))
        { p with processors := procs, result := some (failedResult a g.result exit) }
        (g.trail.note (.of p.logger .error ("Pipeline failed: " ++ exit.message)))
  | unsized {procs : List (Value × Processor)} {g : Progress} {fault : ValueFault}
      (steps : p.steps a p.processors start = (procs, g, none)) (unsized : g.data.length = .error fault) :
      Ended p a start
        (.error (p.errorOf (failedResult a { g.result with output := g.data } (.broken (.value fault)))
          (.broken (.value fault))))
        { p with
          processors := procs
          result := some (failedResult a { g.result with output := g.data } (.broken (.value fault))) }
        (g.trail.note (.of p.logger .error ("Pipeline failed: " ++ Exit.message (.broken (.value fault)))))

section Run

variable {p p' : Pipeline} {a : Ambient} {data : Value} {n : Nat} {t t' : Trail} {r : PipelineResult}
  {outcome : Except PipelineError PipelineResult}

theorem ended_of_run (sized : data.length = .ok n) (h : p.run a (some data) t = (outcome, p', t')) :
    Ended p a (p.start a data n t) outcome p' t' := by
  have executed := @execute_eq p a data n t sized
  have running := p.status_steps a p.processors (p.start a data n t)
  rcases steps : p.steps a p.processors (p.start a data n t) with ⟨procs, g, _ | exit⟩
  · rw [steps] at executed running
    have status : g.result.status = "running" := running
    cases sized' : g.data.length with
    | ok m =>
      simp only [conclude, sized', start] at executed
      simp only [run, executed, status] at h
      cases h
      exact .returned steps sized'
    | error fault =>
      simp only [conclude, sized', start] at executed
      simp only [run, executed] at h
      cases h
      exact .unsized steps sized'
  · rw [steps] at executed
    simp only [start] at executed
    simp only [run, executed] at h
    cases h
    exact .stopped steps

theorem exists_length_of_run (h : p.run a (some data) t = (.ok r, p', t')) : ∃ n, data.length = .ok n := by
  cases sized : data.length with
  | ok n => exact ⟨n, rfl⟩
  | error fault =>
    simp only [run, execute, sized] at h
    cases h

theorem Ended.offered {start : Progress} (h : Ended p a start outcome p' t') :
    t'.offered = (p.steps a p.processors start).2.1.trail.offered := by
  cases h with
  | returned steps sized => rw [steps]; rfl
  | stopped steps => rw [steps]; rfl
  | unsized steps unsized => rw [steps]; rfl

end Run

section Single

variable {p : Pipeline} {a : Ambient} {plugin : Value} {proc : Processor} {data : Value} {n m : Nat}
  {t : Trail}

end Single

end Pipeline

end RecordPipeline
