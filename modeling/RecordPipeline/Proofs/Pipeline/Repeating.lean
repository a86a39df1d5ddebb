import RecordPipeline.Proofs.Pipeline.Registered
import RecordPipeline.Proofs.Processor.Isolation
set_option autoImplicit false

namespace RecordPipeline

namespace Pipeline

open FieldMapping (IsMapper)
open Value (putEntry)
open Work (Isolates)

def freshAll (procs : List (Value × Processor)) : List (Value × Processor) :=
  procs.map fun e => (e.1, e.2.fresh)

/-- The pipeline before its first run. -/
def fresh (p : Pipeline) : Pipeline :=
  { p with processors := freshAll p.processors, result := none }

theorem exists_cons_of_freshAll_eq {plugin : Value} {proc : Processor}
    {procs procs' : List (Value × Processor)} (same : freshAll procs' = freshAll ((plugin, proc) :: procs)) :
    ∃ proc' rest, procs' = (plugin, proc') :: rest ∧ proc'.fresh = proc.fresh ∧
      freshAll rest = freshAll procs := by
  cases procs' with
  | nil => cases same
  | cons head rest =>
    obtain ⟨plugin', proc'⟩ := head
    obtain ⟨first, others⟩ := List.cons.inj same
    obtain ⟨rfl, like⟩ := Prod.mk.inj first
    exact ⟨proc', rest, rfl, like, others⟩

section Step

variable {p q : Pipeline} {a : Ambient} {plugin : Value} {proc : Processor} {g : Progress}

theorem isolated_onFailure (p : Pipeline) (plugin : Value) (fault : Fault) (g : Progress) :
    ∃ (g₁ : Progress) (exit : Option Exit) (added : Trail), g₁.context = g.context ∧
      ∀ t, p.onFailure plugin fault { g with trail := t } = ({ g₁ with trail := t ++ added }, exit) := by
  cases written : failureOf plugin fault with
  | error unwritten =>
    refine ⟨g, some (.broken (.value unwritten)), {}, rfl, fun t => ?_⟩
    rw [Trail.append_empty]
    simp only [onFailure, written]
  | ok texts =>
    obtain ⟨id, text⟩ := texts
    let message := id ++ " failed: " ++ text
    let result := g.result.addProcessorResult plugin (.failure text)
    cases mode : p.mode with
    | strict =>
      refine ⟨{ g with result },
        some (.aborted { message, pipelineName := p.name, report := none, cause := fault }),
        { journal := [.of p.logger .error message] }, rfl, fun t => ?_⟩
      rw [← Trail.note_eq]
      simp only [onFailure, written, mode]
      rfl
    | «continue» =>
      refine ⟨{ g with result := result.addWarning message }, none,
        { journal := [.of p.logger .error message] }, rfl, fun t => ?_⟩
      rw [← Trail.note_eq]
      simp only [onFailure, written, mode]
      rfl

def advance (p : Pipeline) (plugin : Value) (outcome : Except Fault Value) (c : Context)
    (g : Progress) : Progress × Option Exit :=
  match outcome with
  | .error fault => p.onFailure plugin fault g
  | .ok out =>
    match out.length with
    | .error fault => p.onFailure plugin (.value fault) { g with data := out }
    | .ok n =>
      let report := StepReport.success c.metadata.duration n c.metadata.recordsFailed
      ({ g with data := out, result := g.result.addProcessorResult plugin report }, none)

theorem isolated_advance (p : Pipeline) (plugin : Value) (outcome : Except Fault Value) (c : Context)
    (g : Progress) :
    ∃ (g₁ : Progress) (exit : Option Exit) (added : Trail), g₁.context = g.context ∧
      ∀ t, p.advance plugin outcome c { g with trail := t } =
        ({ g₁ with trail := t ++ added }, exit) := by
  cases outcome with
  | error fault => exact p.isolated_onFailure plugin fault g
  | ok out =>
    cases size : out.length with
    | error fault =>
      simp only [advance, size]
      exact p.isolated_onFailure plugin (.value fault) { g with data := out }
    | ok n =>
      let report := StepReport.success c.metadata.duration n c.metadata.recordsFailed
      refine ⟨{ g with data := out, result := g.result.addProcessorResult plugin report }, none, {}, rfl,
        fun t => ?_⟩
      rw [Trail.append_empty]
      simp only [advance, size]
      rfl

theorem step_of_process {running : Entry} {proc' : Processor} {outcome : Except Fault Value} {s : Scene}
    (entry : running = Entry.attempt p.logger .info do
      return "Running " ++ (← plugin.plain) ++ " processor...")
    (left : proc.process a g.data
      { trail := g.trail.note running, context := g.context.child proc.name } = (outcome, proc', s)) :
    p.step a plugin proc g =
      (proc', { (p.advance plugin outcome s.context { g with trail := s.trail }).1 with
          context := (p.advance plugin outcome s.context
            { g with trail := s.trail }).1.context.merge s.context },
        (p.advance plugin outcome s.context { g with trail := s.trail }).2) := by
  subst entry
  simp only [step, left]
  rfl

theorem isolated_step (core : ∀ data, Isolates (proc.core a data)) (forgetful : g.context.Forgetful) :
    ∃ (g₁ : Progress) (exit : Option Exit) (added : Trail), g₁.context.Forgetful ∧
      ∀ (proc' : Processor) (t : Trail), proc'.fresh = proc.fresh → ∃ proc'',
        p.step a plugin proc' { g with trail := t } = (proc'', { g₁ with trail := t ++ added }, exit) ∧
          proc''.fresh = proc.fresh := by
  obtain ⟨running, entry⟩ : ∃ running, running = Entry.attempt p.logger .info do
    return "Running " ++ (← plugin.plain) ++ " processor..." := ⟨_, rfl⟩
  have child : (g.context.child proc.name).Forgetful := forgetful.of_sink_eq rfl
  obtain ⟨outcome, c, added, -, called⟩ := Processor.isolated_called core g.data child
  obtain ⟨g₁, exit, more, context, advanced⟩ := p.isolated_advance plugin outcome c g
  refine ⟨{ g₁ with context := g.context.merge c }, exit, { journal := [running] } ++ added ++ more,
    forgetful.of_sink_eq rfl, fun proc' t same => ?_⟩
  have name : proc'.name = proc.name := (congrArg (fun r : Processor => r.name) same :)
  obtain ⟨proc'', left, kept⟩ := Processor.process_of_fresh_eq same a g.data
    { trail := t.note running, context := g.context.child proc.name }
  rw [called (t.note running), ← name] at left
  refine ⟨proc'', ?_, kept⟩
  rw [step_of_process entry left, advanced, Trail.note_eq]
  simp only [context, Trail.append_assoc]

end Step

section Steps

variable {p q : Pipeline} {a : Ambient} {procs : List (Value × Processor)} {g : Progress}

theorem isolated_steps (cores : ∀ e ∈ procs, ∀ data, Isolates (e.2.core a data))
    (forgetful : g.context.Forgetful) :
    ∃ (g₁ : Progress) (exit : Option Exit) (added : Trail),
      ∀ (procs' : List (Value × Processor)) (t : Trail), freshAll procs' = freshAll procs →
        ∃ procs'', p.steps a procs' { g with trail := t } =
            (procs'', { g₁ with trail := t ++ added }, exit) ∧
          freshAll procs'' = freshAll procs := by
  induction procs generalizing g with
  | nil =>
    refine ⟨g, none, {}, fun procs' t same => ⟨[], ?_, rfl⟩⟩
    obtain rfl := List.map_eq_nil_iff.mp same
    rw [Trail.append_empty]
    rfl
  | cons head rest ih =>
    obtain ⟨plugin, proc⟩ := head
    obtain ⟨core, others⟩ := List.forall_mem_cons.mp cores
    obtain ⟨g₁, exit, added, forgetful₁, step⟩ := @isolated_step p a plugin proc g core forgetful
    cases exit with
    | some exit =>
      refine ⟨g₁, some exit, added, fun procs' t same => ?_⟩
      obtain ⟨proc', rest', rfl, like, later⟩ := exists_cons_of_freshAll_eq same
      obtain ⟨proc'', left, kept⟩ := step proc' t like
      refine ⟨(plugin, proc'') :: rest', by simp only [steps, left], ?_⟩
      simp only [freshAll, List.map_cons, kept] at later ⊢
      rw [later]
    | none =>
      obtain ⟨g₂, exit, added', steps⟩ := ih others forgetful₁
      refine ⟨g₂, exit, added ++ added', fun procs' t same => ?_⟩
      obtain ⟨proc', rest', rfl, like, later⟩ := exists_cons_of_freshAll_eq same
      obtain ⟨proc'', left, kept⟩ := step proc' t like
      obtain ⟨rest'', left', kept'⟩ := steps rest' (t ++ added) later
      refine ⟨(plugin, proc'') :: rest'', ?_, ?_⟩
      · simp only [Pipeline.steps, left, left', Trail.append_assoc]
      · simp only [freshAll, List.map_cons, kept] at kept' ⊢
        rw [kept']

theorem steps_of_fresh_eq (same : q.fresh = p.fresh) (a : Ambient) (procs : List (Value × Processor))
    (g : Progress) : q.steps a procs g = p.steps a procs g := by
  have step : q.step = p.step := (congrArg Pipeline.step same :)
  induction procs generalizing g with
  | nil => rfl
  | cons head rest ih => simp only [steps, step, ih]

end Steps

section Run

variable {p q : Pipeline} {a : Ambient}

theorem processors_of_fresh_eq (same : q.fresh = p.fresh) :
    freshAll q.processors = freshAll p.processors :=
  (congrArg (fun p : Pipeline => p.processors) same :)

theorem isolated_execute (cores : ∀ e ∈ p.processors, ∀ data, Isolates (e.2.core a data))
    (memoryless : ∀ sink, p.sink = some sink → sink.Memoryless) (records : Option Value)
    (r : PipelineResult) :
    ∃ (exit : Option Exit) (r₁ : PipelineResult) (added : Trail), ∀ (q : Pipeline) (t : Trail),
      q.fresh = p.fresh → ∃ procs, q.execute a records r t = (exit, r₁, procs, t ++ added) ∧
        freshAll procs = freshAll p.processors := by
  cases records with
  | none =>
    refine ⟨some (.broken (.raised .value (.ok "Must provide records"))), r, {}, fun q t same => ?_⟩
    rw [Trail.append_empty]
    exact ⟨q.processors, rfl, processors_of_fresh_eq same⟩
  | some data =>
    cases sized : data.length with
    | error fault =>
      refine ⟨some (.broken (.value fault)), r, {}, fun q t same => ⟨q.processors, ?_, processors_of_fresh_eq same⟩⟩
      rw [Trail.append_empty]
      simp only [execute, sized]
    | ok n =>
      let start : Progress :=
        { data
          context := { pipelineName := .text p.name, sink := p.sink }
          result := { r with totalItems := n }
          trail := {} }
      obtain ⟨g, exit, added, stepped⟩ := @isolated_steps p a p.processors start cores memoryless
      have steps (q : Pipeline) (t : Trail) (same : q.fresh = p.fresh) : ∃ procs,
          q.steps a q.processors
            { data
              context := { pipelineName := .text q.name, sink := q.sink }
              result := { r with totalItems := n }
              trail := t } = (procs, { g with trail := t ++ added }, exit) ∧
          freshAll procs = freshAll p.processors := by
        have name : q.name = p.name := (congrArg (fun p : Pipeline => p.name) same :)
        have sink : q.sink = p.sink := (congrArg (fun p : Pipeline => p.sink) same :)
        rw [steps_of_fresh_eq same, name, sink]
        exact stepped q.processors t (processors_of_fresh_eq same)
      cases exit with
      | some exit =>
        refine ⟨some exit, g.result, added, fun q t same => ?_⟩
        obtain ⟨procs, left, kept⟩ := steps q t same
        exact ⟨procs, by simp only [execute, sized, left], kept⟩
      | none =>
        cases size : g.data.length with
        | error fault =>
          refine ⟨some (.broken (.value fault)), (conclude g).2, added, fun q t same => ?_⟩
          obtain ⟨procs, left, kept⟩ := steps q t same
          exact ⟨procs, by simp only [execute, sized, left, conclude, size], kept⟩
        | ok m =>
          refine ⟨none, (conclude g).2, added, fun q t same => ?_⟩
          obtain ⟨procs, left, kept⟩ := steps q t same
          exact ⟨procs, by simp only [execute, sized, left, conclude, size], kept⟩

theorem fresh_congr {procs procs' : List (Value × Processor)} (same : q.fresh = p.fresh)
    (kept : freshAll procs' = freshAll procs) (left left' : Option PipelineResult) :
    Pipeline.fresh { q with processors := procs', result := left } =
      Pipeline.fresh { p with processors := procs, result := left' } := by
  calc Pipeline.fresh { q with processors := procs', result := left }
      = { q.fresh with processors := freshAll procs' } := rfl
    _ = { p.fresh with processors := freshAll procs } := by rw [same, kept]
    _ = Pipeline.fresh { p with processors := procs, result := left' } := rfl

/-- What a run comes to and adds to the trail is settled by the pipeline as it was before its first
run. -/
theorem isolated_run (cores : ∀ e ∈ p.processors, ∀ data, Isolates (e.2.core a data))
    (memoryless : ∀ sink, p.sink = some sink → sink.Memoryless) (records : Option Value) :
    ∃ (outcome : Except PipelineError PipelineResult) (r : PipelineResult) (added : Trail),
      ∀ (q : Pipeline) (t : Trail), q.fresh = p.fresh → ∃ q',
        q.run a records t = (outcome, q', t ++ added) ∧ q'.result = some r ∧ q'.fresh = p.fresh := by
  obtain ⟨exit, r, added, executed⟩ :=
    isolated_execute cores memoryless records { pipelineId := p.runId a, startTime := a.now }
  let starting := Entry.of p.logger .info
    ("Starting pipeline: " ++ p.name ++ " (ID: " ++ p.runId a ++ ")")
  have logger {q : Pipeline} (same : q.fresh = p.fresh) : q.logger = p.logger :=
    (congrArg Pipeline.logger same :)
  have name {q : Pipeline} (same : q.fresh = p.fresh) : q.name = p.name :=
    (congrArg (fun p : Pipeline => p.name) same :)
  have runId {q : Pipeline} (same : q.fresh = p.fresh) : q.runId = p.runId :=
    (congrArg Pipeline.runId same :)
  cases exit with
  | none =>
    let last := if r.status = "running" then r.complete a.later "completed" else r
    let ending := Entry.of p.logger .info ("Pipeline completed: " ++ last.status)
    refine ⟨.ok last, last, { journal := [starting] } ++ (added ++ ({ journal := [ending] } ++
      { journal := p.failedItemsEntries last })), fun q t same => ?_⟩
    obtain ⟨procs, left, kept⟩ := executed q (t.note starting) same
    have entries : q.failedItemsEntries = p.failedItemsEntries :=
      (congrArg Pipeline.failedItemsEntries same :)
    refine ⟨{ q with processors := procs, result := some last }, ?_, rfl, fresh_congr same kept _ p.result⟩
    simp only [starting] at left
    simp only [run, logger same, name same, runId same, left, entries]
    rw [← Trail.append_assoc, ← Trail.append_assoc, ← Trail.append_assoc, ← Trail.noteAll_eq,
      ← Trail.note_eq, ← Trail.note_eq]
  | some exit =>
    let last := (r.complete a.later "failed").addError ("Pipeline execution failed: " ++ exit.message)
    let ending := Entry.of p.logger .error ("Pipeline failed: " ++ exit.message)
    refine ⟨.error (p.errorOf last exit), last,
      { journal := [starting] } ++ (added ++ { journal := [ending] }), fun q t same => ?_⟩
    obtain ⟨procs, left, kept⟩ := executed q (t.note starting) same
    have error : q.errorOf = p.errorOf := (congrArg Pipeline.errorOf same :)
    refine ⟨{ q with processors := procs, result := some last }, ?_, rfl, fresh_congr same kept _ p.result⟩
    simp only [starting] at left
    simp only [run, logger same, name same, runId same, left, error]
    rw [← Trail.append_assoc, ← Trail.append_assoc, ← Trail.note_eq, ← Trail.note_eq]

end Run

section Register

def registerAll (p : Pipeline) : List Processor → Except ActivationFault Pipeline
  | [] => .ok p
  | proc :: rest => do
    (p.register proc).1
    (p.register proc).2.1.registerAll rest

theorem freshAll_putEntry (plugin : Value) (proc : Processor) (procs : List (Value × Processor)) :
    freshAll (putEntry plugin proc procs) = putEntry plugin proc.fresh (freshAll procs) :=
  Value.map_putEntry Processor.fresh plugin proc procs

variable {p p' q : Pipeline} {proc proc' : Processor} {procs procs' : List Processor}

theorem register_of_fresh_eq (same : q.fresh = p.fresh) (like : proc'.fresh = proc.fresh)
    (accepted : (p.register proc).1 = .ok ()) :
    (q.register proc').1 = .ok () ∧ (q.register proc').2.1.fresh = (p.register proc).2.1.fresh := by
  obtain ⟨admits, key⟩ := register_eq_ok_iff.mp accepted
  have gate : q.activator = p.activator := (congrArg (fun p : Pipeline => p.activator) same :)
  have plugin : proc'.pluginId = proc.pluginId := (congrArg (fun r : Processor => r.pluginId) like :)
  have version : proc'.pipelineVersion = proc.pipelineVersion :=
    (congrArg (fun r : Processor => r.pipelineVersion) like :)
  rw [← gate, ← version] at admits
  rw [← plugin] at key
  have accepted' := register_eq_ok_iff.mpr ⟨admits, key⟩
  rw [register_of_ok accepted, register_of_ok accepted']
  refine ⟨accepted', fresh_congr same ?_ q.result p.result⟩
  rw [freshAll_putEntry, freshAll_putEntry, like, plugin, processors_of_fresh_eq same]

theorem registerAll_of_fresh_eq (same : q.fresh = p.fresh)
    (again : procs'.map Processor.fresh = procs.map Processor.fresh) (built : p.registerAll procs = .ok p') :
    ∃ q', q.registerAll procs' = .ok q' ∧ q'.fresh = p'.fresh := by
  induction procs generalizing p q procs' with
  | nil =>
    obtain rfl := List.map_eq_nil_iff.mp again
    cases built
    exact ⟨q, rfl, same⟩
  | cons proc rest ih =>
    obtain ⟨proc', rest', rfl, like, others⟩ := List.map_eq_cons_iff.mp again
    obtain ⟨⟨⟩, accepted, built⟩ := exists_of_bind_eq_ok built
    obtain ⟨accepted', same'⟩ := register_of_fresh_eq same like accepted
    obtain ⟨q', rebuilt, kept⟩ := ih same' others built
    exact ⟨q', by rw [registerAll, accepted']; exact rebuilt, kept⟩

end Register

/-- Runs one after the other, whatever they come to: the pipeline and the trail after them. -/
def afterRuns (p : Pipeline) : List (Ambient × Option Value) → Trail → Pipeline × Trail
  | [], t => (p, t)
  | (a, records) :: rest, t => (p.run a records t).2.1.afterRuns rest (p.run a records t).2.2

theorem fresh_afterRuns {p q : Pipeline} (mappers : ∀ e ∈ p.processors, ∃ ts, IsMapper e.2 ts)
    (memoryless : ∀ sink, p.sink = some sink → sink.Memoryless) (same : q.fresh = p.fresh)
    (earlier : List (Ambient × Option Value)) (t : Trail) : (q.afterRuns earlier t).1.fresh = p.fresh := by
  induction earlier generalizing q t with
  | nil => exact same
  | cons first rest ih =>
    obtain ⟨a, records⟩ := first
    have cores : ∀ e ∈ p.processors, ∀ data, Isolates (e.2.core a data) := fun e he data =>
      (mappers e he).elim fun ts mapper => mapper.isolates a data
    obtain ⟨outcome, r, added, ran⟩ := isolated_run cores memoryless records
    obtain ⟨q', left, -, kept⟩ := ran q t same
    rw [afterRuns, left]
    exact ih kept (t ++ added)

/-- A run on a pipeline of mappers on which others were made before comes to what it comes to on a
pipeline with the same registrations, leaves the same result and adds the same to the journal and to
what the sink is offered. -/
theorem run_after_runs {base p : Pipeline} {procs procs' : List Processor}
    (built : base.registerAll procs = .ok p)
    (mappers : ∀ e ∈ p.processors, ∃ ts, IsMapper e.2 ts)
    (memoryless : ∀ sink, p.sink = some sink → sink.Memoryless)
    (again : procs'.map Processor.fresh = procs.map Processor.fresh) :
    ∃ q, base.registerAll procs' = .ok q ∧
      ∀ (earlier : List (Ambient × Option Value)) (a : Ambient) (records : Option Value) (t t₀ : Trail),
        ∃ outcome r added used unused,
          (p.afterRuns earlier t).1.run a records (p.afterRuns earlier t).2 =
            (outcome, used, (p.afterRuns earlier t).2 ++ added) ∧
          q.run a records t₀ = (outcome, unused, t₀ ++ added) ∧
          used.result = some r ∧ unused.result = some r := by
  obtain ⟨q, rebuilt, same⟩ := registerAll_of_fresh_eq rfl again built
  refine ⟨q, rebuilt, fun earlier a records t t₀ => ?_⟩
  have cores : ∀ e ∈ p.processors, ∀ data, Isolates (e.2.core a data) := fun e he data =>
    (mappers e he).elim fun ts mapper => mapper.isolates a data
  obtain ⟨outcome, r, added, ran⟩ := isolated_run cores memoryless records
  obtain ⟨used, left, result, -⟩ := ran (p.afterRuns earlier t).1 (p.afterRuns earlier t).2
    (fresh_afterRuns mappers memoryless rfl earlier t)
  obtain ⟨unused, left', result', -⟩ := ran q t₀ same
  exact ⟨outcome, r, added, used, unused, left, left', result, result'⟩

theorem run_after_runs_word :
    let mapper := FieldMapping.processor (FieldMapping.identity (.text "mapper") .null)
      [(.text "speed", .integer)]
    let base : Pipeline :=
      { name := "telemetry", id := "0", activator := { enforce := true }, sink := some .collect }
    let a : Ambient := { now := .epoch, settings := .unset }
    let batch (v : Value) := Value.list [.record [(.text "speed", v)]]
    let earlier := [(a, none), (a, some (batch (.int 7)))]
    ∃ p q, base.registerAll [mapper] = .ok p ∧ base.registerAll [mapper] = .ok q ∧
      ∃ outcome r added used unused,
        (p.afterRuns earlier {}).1.run a (some (batch (.text "x"))) (p.afterRuns earlier {}).2 =
          (outcome, used, (p.afterRuns earlier {}).2 ++ added) ∧
        q.run a (some (batch (.text "x"))) {} = (outcome, unused, {} ++ added) ∧
        used.result = some r ∧ unused.result = some r := by
  intro mapper base a batch earlier
  obtain ⟨p, built, processors, sink⟩ : ∃ p, base.registerAll [mapper] = .ok p ∧
      p.processors = [(.text "mapper", mapper)] ∧ p.sink = some .collect := ⟨_, rfl, rfl, rfl⟩
  have mappers : ∀ e ∈ p.processors, ∃ ts, IsMapper e.2 ts := by
    rw [processors]
    exact List.forall_mem_singleton.mpr ⟨_, rfl, rfl, rfl⟩
  have memoryless : ∀ sink, p.sink = some sink → sink.Memoryless := by
    rw [sink]
    rintro _ ⟨⟩
    exact fun _ _ => rfl
  obtain ⟨q, rebuilt, runs⟩ := run_after_runs built mappers memoryless rfl
  exact ⟨p, q, built, rebuilt, runs earlier a _ {} {}⟩

end Pipeline

end RecordPipeline
