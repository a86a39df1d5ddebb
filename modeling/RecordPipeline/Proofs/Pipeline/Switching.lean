import RecordPipeline.Proofs.Pipeline.DeadLetters
import RecordPipeline.Proofs.Pipeline.Repeating
import RecordPipeline.Proofs.Processor.Switching
set_option autoImplicit false

/-!
Runs under the dead-letter switch. With a sink that does not raise, a run with routing on and one
with routing off make the same steps on the same data, so they end in the same way with the same
result, and what they differ in are the failure records and what the sink was offered. With routing
off there are none of either.
-/

namespace RecordPipeline

def PipelineResult.muted (r : PipelineResult) : PipelineResult := { r with failureRecords := [] }

theorem PipelineResult.muted_eq_self {r : PipelineResult} (none : r.failureRecords = []) : r.muted = r := by
  rw [muted, ← none]

namespace Pipeline

open FieldMapping (IsMapper)
open Work (Agrees)

/-- Two points of runs at the same data and result that differ at most in the dead letters. -/
structure Progress.Alike (g g' : Progress) : Prop where
  data : g.data = g'.data
  result : g.result = g'.result
  scene : RecordPipeline.Alike g.scene g'.scene

section Steps

variable {p : Pipeline} {a b : Ambient} {plugin : Value} {proc : Processor}
  {procs : List (Value × Processor)} {g g' : Progress}

namespace Progress.Alike

theorem onFailure (h : g.Alike g') (p : Pipeline) (plugin : Value) (fault : Fault) :
    ∃ exit g₁ g₁', p.onFailure plugin fault g = (g₁, exit) ∧ p.onFailure plugin fault g' = (g₁', exit) ∧
      g₁.Alike g₁' := by
  cases written : failureOf plugin fault with
  | error unwritten =>
    refine ⟨some (.broken (.value unwritten)), g, g', ?_, ?_, h⟩ <;> simp only [Pipeline.onFailure, written]
  | ok texts =>
    obtain ⟨id, text⟩ := texts
    have noted := h.scene.note (.of p.logger .error (id ++ " failed: " ++ text))
    have reported : g.result.addProcessorResult plugin (.failure text) =
        g'.result.addProcessorResult plugin (.failure text) := by rw [h.result]
    cases mode : p.mode with
    | strict =>
      simp only [Pipeline.onFailure, written, mode]
      exact ⟨_, _, _, rfl, rfl, h.data, reported, noted⟩
    | «continue» =>
      simp only [Pipeline.onFailure, written, mode]
      have warned := congrArg (·.addWarning (id ++ " failed: " ++ text)) reported
      exact ⟨_, _, _, rfl, rfl, h.data, warned, noted⟩

theorem advance (h : g.Alike g') (p : Pipeline) (plugin : Value) (outcome : Except Fault Value)
    {c c' : Context} (same : c.metadata = c'.metadata) :
    ∃ exit g₁ g₁', p.advance plugin outcome c g = (g₁, exit) ∧ p.advance plugin outcome c' g' = (g₁', exit) ∧
      g₁.Alike g₁' := by
  cases outcome with
  | error fault => exact h.onFailure p plugin fault
  | ok out =>
    have moved : Alike { g with data := out } { g' with data := out } := ⟨rfl, h.result, h.scene⟩
    cases size : out.length with
    | error fault =>
      simp only [Pipeline.advance, size]
      exact moved.onFailure p plugin (.value fault)
    | ok n =>
      simp only [Pipeline.advance, size, same, h.result]
      exact ⟨_, _, _, rfl, rfl, rfl, rfl, h.scene⟩

theorem merge (h : g.Alike g') {c c' : Context} (same : c.muted = c'.muted) :
    Alike { g with context := g.context.merge c } { g' with context := g'.context.merge c' } where
  data := h.data
  result := h.result
  scene :=
    { context := by
        have merged (parent child : Context) :
          (parent.merge child).muted = (parent.muted.merge child.muted).muted := rfl
        show (g.context.merge c).muted = (g'.context.merge c').muted
        rw [merged, same, show g.context.muted = g'.context.muted from h.scene.context, ← merged]
      journal := h.scene.journal
      silent := h.scene.silent }

end Progress.Alike

theorem step_agrees (now : a.now = b.now) (later : a.later = b.later)
    (core : ∀ data, Agrees (proc.core a data) (proc.core b data))
    (alike : g.Alike g') : ∃ proc' exit g₁ g₁', p.step a plugin proc g = (proc', g₁, exit) ∧
      p.step b plugin proc g' = (proc', g₁', exit) ∧ g₁.Alike g₁' := by
  obtain ⟨running, entry⟩ : ∃ running, running = Entry.attempt p.logger .info do
    return "Running " ++ (← plugin.plain) ++ " processor..." := ⟨_, rfl⟩
  have start : RecordPipeline.Alike
      { trail := g.trail.note running, context := g.context.child proc.name }
      { trail := g'.trail.note running, context := g'.context.child proc.name } :=
    { context := by
        show g.context.muted.child proc.name = g'.context.muted.child proc.name
        rw [show g.context.muted = g'.context.muted from alike.scene.context]
      journal := (alike.scene.note running).journal
      silent := alike.scene.silent }
  obtain ⟨outcome, proc', s, s', left, left', ended⟩ := Processor.process_agrees now later core g.data start
  rw [alike.data] at left'
  have carried : Progress.Alike { g with trail := s.trail } { g' with trail := s'.trail } :=
    ⟨alike.data, alike.result, alike.scene.context, ended.journal, alike.scene.silent⟩
  obtain ⟨exit, g₁, g₁', advanced, advanced', after⟩ := carried.advance p plugin outcome ended.metadata
  refine ⟨proc', exit, _, _, ?_, ?_, after.merge ended.context⟩
  · rw [step_of_process entry left, advanced]
  · rw [step_of_process entry left', advanced']

theorem steps_agree (now : a.now = b.now) (later : a.later = b.later)
    (cores : ∀ e ∈ procs, ∀ data, Agrees (e.2.core a data) (e.2.core b data)) (alike : g.Alike g') :
    ∃ procs' exit g₁ g₁', p.steps a procs g = (procs', g₁, exit) ∧
      p.steps b procs g' = (procs', g₁', exit) ∧ g₁.Alike g₁' := by
  induction procs generalizing g g' with
  | nil => exact ⟨[], none, g, g', rfl, rfl, alike⟩
  | cons head rest ih =>
    obtain ⟨plugin, proc⟩ := head
    obtain ⟨core, others⟩ := List.forall_mem_cons.mp cores
    obtain ⟨proc', exit, g₁, g₁', step, step', alike₁⟩ :=
      @step_agrees p a b plugin proc g g' now later core alike
    cases exit with
    | some exit =>
      refine ⟨(plugin, proc') :: rest, some exit, g₁, g₁', ?_, ?_, alike₁⟩
      · simp only [steps, step]
      · simp only [steps, step']
    | none =>
      obtain ⟨rest', exit, g₂, g₂', later, later', alike₂⟩ := ih others alike₁
      refine ⟨(plugin, proc') :: rest', exit, g₂, g₂', ?_, ?_, alike₂⟩
      · simp only [steps, step, later]
      · simp only [steps, step', later']

end Steps

section Run

variable {p : Pipeline} {a : Ambient}

theorem core_agrees_of_mappers (mappers : ∀ e ∈ p.processors, ∃ ts, IsMapper e.2 ts) (a : Ambient) :
    ∀ e ∈ p.processors, ∀ data,
      Agrees (e.2.core (a.routing true) data) (e.2.core (a.routing false) data) := by
  intro e he data
  obtain ⟨ts, mapper⟩ := mappers e he
  have now : (a.routing true).now = (a.routing false).now := rfl
  rw [mapper.core]
  exact FieldMapping.core_agrees now e.2.toIdentity ts data

theorem silent_steps {procs procs' : List (Value × Processor)} {g g' : Progress} {exit : Option Exit}
    (mappers : ∀ e ∈ procs, ∃ ts, IsMapper e.2 ts)
    (h : p.steps (a.routing false) procs g = (procs', g', exit)) :
    g'.context.failureRecords = g.context.failureRecords ∧ g'.trail.offered = g.trail.offered := by
  obtain ⟨handed, -, sent⟩ := exists_sent_of_steps mappers h
  have kept : g'.context.failureRecords = g.context.failureRecords ++ [] := sent.failureRecords
  have offered : g'.trail.offered = g.trail.offered ++ [] := sent.offered
  exact ⟨by simpa using kept, by simpa using offered⟩

/-- What a run with routing off differs in from the same run with routing on. -/
structure SwitchedOff (t : Trail) (on off : Except PipelineError PipelineResult × Pipeline × Trail) :
    Prop where
  outcome : off.1 = on.1.map PipelineResult.muted
  pipeline : off.2.1 = { on.2.1 with result := on.2.1.result.map PipelineResult.muted }
  offered : off.2.2.offered = t.offered
  journal : off.2.2.quiet = on.2.2.quiet

theorem Progress.Alike.completed {g g' : Progress} (h : g.Alike g')
    (unkept : g'.context.failureRecords = []) (a : Ambient) (m : Nat) :
    g'.completed (a.routing false) m = (g.completed (a.routing true) m).muted := by
  have errors : g'.context.errors = g.context.errors := (congrArg Context.errors h.scene.context.symm :)
  have metadata : g'.context.metadata = g.context.metadata := h.scene.metadata.symm
  simp only [Progress.completed, h.result, h.data, unkept, errors, metadata]
  rfl

theorem switchedOff_of_failed {r : PipelineResult} {t t₁ t₁' : Trail} (untaken : r.failureRecords = [])
    (offered : t₁'.offered = t.offered) (journal : t₁'.quiet = t₁.quiet) (p : Pipeline)
    (procs : List (Value × Processor)) (e : PipelineError) (exit : Exit) :
    SwitchedOff t
      (.error e, { p with processors := procs, result := some (failedResult (a.routing true) r exit) }, t₁)
      (.error e, { p with processors := procs, result := some (failedResult (a.routing false) r exit) }, t₁') where
  outcome := rfl
  pipeline := by
    have muted : (failedResult (a.routing true) r exit).muted = failedResult (a.routing true) r exit :=
      PipelineResult.muted_eq_self untaken
    simp only [Option.map_some, muted]
    rfl
  offered := offered
  journal := journal

theorem switchedOff_of_ended {start g g' : Progress} {procs : List (Value × Processor)} {exit : Option Exit}
    {outcome outcome' : Except PipelineError PipelineResult} {q q' : Pipeline} {t t₁ t₁' : Trail}
    (steps : p.steps (a.routing true) p.processors start = (procs, g, exit))
    (steps' : p.steps (a.routing false) p.processors start = (procs, g', exit)) (last : g.Alike g')
    (untaken : g.result.failureRecords = []) (unkept : g'.context.failureRecords = [])
    (offered : g'.trail.offered = t.offered) (on : Ended p (a.routing true) start outcome q t₁)
    (off : Ended p (a.routing false) start outcome' q' t₁') :
    SwitchedOff t (outcome, q, t₁) (outcome', q', t₁') := by
  have journal (es : List Entry) : (g'.trail.noteAll es).quiet = (g.trail.noteAll es).quiet := by
    rw [Trail.quiet_noteAll, Trail.quiet_noteAll]
    exact congrArg (· ++ _) last.scene.journal.symm
  cases on with
  | @returned _ _ m steps₁ sized₁ =>
    cases steps.symm.trans steps₁
    rw [last.data] at sized₁
    cases off with
    | returned steps₂ sized₂ =>
      cases steps'.symm.trans steps₂
      cases sized₁.symm.trans sized₂
      rw [last.completed unkept a m]
      refine ⟨rfl, rfl, offered, ?_⟩
      rw [Trail.quiet_noteAll, Trail.quiet_noteAll]
      exact congrArg (· ++ _) (journal [.of p.logger .info "Pipeline completed: completed"])
    | stopped steps₂ => cases steps'.symm.trans steps₂
    | unsized steps₂ unsized₂ =>
      cases steps'.symm.trans steps₂
      cases sized₁.symm.trans unsized₂
  | @stopped _ _ exit steps₁ =>
    cases steps.symm.trans steps₁
    cases off with
    | stopped steps₂ =>
      cases steps'.symm.trans steps₂
      rw [← last.result]
      refine switchedOff_of_failed untaken ?_ ?_ p procs _ exit
      · exact offered
      · exact journal [_]
    | returned steps₂ _ => cases steps'.symm.trans steps₂
    | unsized steps₂ _ => cases steps'.symm.trans steps₂
  | @unsized _ _ fault steps₁ unsized₁ =>
    cases steps.symm.trans steps₁
    rw [last.data] at unsized₁
    cases off with
    | unsized steps₂ unsized₂ =>
      cases steps'.symm.trans steps₂
      cases unsized₁.symm.trans unsized₂
      have untaken_output : { g.result with output := g.data }.failureRecords = [] := untaken
      rw [← last.result, ← last.data]
      refine switchedOff_of_failed untaken_output ?_ ?_ p procs _ (.broken (.value fault))
      · exact offered
      · exact journal [_]
    | returned steps₂ sized₂ =>
      cases steps'.symm.trans steps₂
      cases unsized₁.symm.trans sized₂
    | stopped steps₂ => cases steps'.symm.trans steps₂

/-- The dead-letter switch has no part in what a run of mappers comes to. -/
theorem run_switched_off (mappers : ∀ e ∈ p.processors, ∃ ts, IsMapper e.2 ts)
    (silent : ∀ sink, p.sink = some sink → sink.Silent) (a : Ambient) (records : Option Value) (t : Trail) :
    SwitchedOff t (p.run (a.routing true) records t) (p.run (a.routing false) records t) := by
  cases records with
  | none => exact ⟨rfl, rfl, rfl, rfl⟩
  | some data =>
    cases sized : data.length with
    | error fault =>
      simp only [run, execute, sized]
      exact ⟨rfl, rfl, rfl, rfl⟩
    | ok n =>
      have alike : (p.start a data n t).Alike (p.start a data n t) := ⟨rfl, rfl, rfl, rfl, silent⟩
      have now : (a.routing true).now = (a.routing false).now := rfl
      have later : (a.routing true).later = (a.routing false).later := rfl
      obtain ⟨procs, exit, g, g', steps, steps', last⟩ :=
        steps_agree now later (core_agrees_of_mappers mappers a) alike
      obtain ⟨kept, offered⟩ := silent_steps mappers steps'
      exact switchedOff_of_ended steps steps' last (result_of_steps steps).1 kept offered
        (ended_of_run sized rfl) (ended_of_run sized rfl)

theorem run_switched_off_refused_record :
    let mapper := FieldMapping.processor (FieldMapping.identity (.text "mapper") .null)
      [(.text "speed", .integer)]
    let p : Pipeline :=
      { name := "telemetry", id := "0", activator := { enforce := true }, sink := some .collect
        processors := [(.text "mapper", mapper)] }
    let a : Ambient := { now := .epoch, settings := .unset }
    let batch := Value.list [.record [(.text "speed", .text "x")]]
    let on := p.run (a.routing true) (some batch) {}
    let off := p.run (a.routing false) (some batch) {}
    SwitchedOff {} on off ∧ on.2.2.offered.length = 1 ∧
      (∃ r, on.1 = .ok r ∧ r.failureRecords.length = 1 ∧ r.failedItems = 1) ∧
      ∃ r, off.1 = .ok r ∧ r.failureRecords = [] ∧ r.failedItems = 1 :=
  ⟨run_switched_off (List.forall_mem_singleton.mpr ⟨_, rfl, rfl, rfl⟩)
      (by rintro _ ⟨⟩; exact Sink.silent_collect) _ _ _,
    rfl, ⟨_, rfl, rfl, rfl⟩, _, rfl, rfl, rfl⟩

end Run

end Pipeline

end RecordPipeline
