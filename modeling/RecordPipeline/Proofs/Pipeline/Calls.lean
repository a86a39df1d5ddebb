import Mathlib.Data.List.Basic
import RecordPipeline.Pipeline.Basic
import RecordPipeline.Proofs.Processor.Hold
set_option autoImplicit false

/-!
The calls of a run. A step makes one call and merges the child context of it whatever it came to; a
run that is not left early makes one call of every processor, in order.
-/

namespace RecordPipeline

namespace Pipeline

theorem failureOf_of_told {plugin : Value} {fault : Fault} {id : String} (written : plugin.plain = .ok id)
    (told : fault.IsTold) : failureOf plugin fault = .ok (id, fault.shown) := by
  rw [failureOf, written, told.message_eq]
  rfl

theorem failureOf_of_unnamed {plugin : Value} {unwritten : ValueFault} (unnamed : plugin.plain = .error unwritten)
    (fault : Fault) : failureOf plugin fault = .error unwritten := by
  rw [failureOf, unnamed]
  rfl

/-- A call that a run makes: the processor under its plugin id, and the data and the scene it is
given. -/
structure Call where
  plugin : Value
  processor : Processor
  data : Value
  scene : Scene

namespace Call

def left (c : Call) (a : Ambient) : Except Fault Value × Processor × Scene :=
  c.processor.process a c.data c.scene

def outcome (c : Call) (a : Ambient) : Except Fault Value := (c.left a).1

def context (c : Call) (a : Ambient) : Context := (c.left a).2.2.context

def output (c : Call) (a : Ambient) : Except Fault (Value × Nat) :=
  match c.outcome a with
  | .error fault => .error fault
  | .ok out =>
    match out.length with
    | .error fault => .error (.value fault)
    | .ok n => .ok (out, n)

def report (c : Call) (a : Ambient) : StepReport :=
  match c.output a with
  | .ok (_, n) => .success (c.context a).metadata.duration n (c.context a).metadata.recordsFailed
  | .error fault => .failure fault.shown

/-- The data that a run holds after a call: what it returned, with or without a length. -/
def dataAfter (c : Call) (a : Ambient) : Value :=
  match c.outcome a with
  | .ok out => out
  | .error _ => c.data

variable {c : Call} {a : Ambient}

theorem output_eq_ok_iff {out : Value} {n : Nat} :
    c.output a = .ok (out, n) ↔ c.outcome a = .ok out ∧ out.length = .ok n := by
  unfold output
  constructor
  · intro taken
    split at taken
    · cases taken
    · rename_i returned
      split at taken
      · cases taken
      · rename_i size
        cases taken
        exact ⟨returned, size⟩
  · rintro ⟨returned, size⟩
    simp only [returned, size]

theorem output_eq_error_of_outcome {fault : Fault} (h : c.outcome a = .error fault) :
    c.output a = .error fault := by
  simp only [output, h]

theorem isTold_of_output {fault : Fault} (refused : c.output a = .error fault) : fault.IsTold := by
  unfold output at refused
  split at refused
  · rename_i failed
    cases refused
    exact Processor.isTold_of_process failed
  · split at refused
    · cases refused
      exact ⟨_, rfl⟩
    · cases refused

end Call

def call (p : Pipeline) (plugin : Value) (proc : Processor) (g : Progress) : Call :=
  { plugin
    processor := proc
    data := g.data
    scene :=
      { trail := g.trail.note (Entry.attempt p.logger .info do
          return "Running " ++ (← plugin.plain) ++ " processor...")
        context := g.context.child proc.name } }

def calls (p : Pipeline) (a : Ambient) : List (Value × Processor) → Progress → List Call
  | [], _ => []
  | (plugin, proc) :: rest, g =>
    p.call plugin proc g ::
      match p.step a plugin proc g with
      | (_, _, some _) => []
      | (_, g, none) => p.calls a rest g

section Step

variable {p : Pipeline} {a : Ambient} {plugin : Value} {proc : Processor} {g : Progress}

theorem step_of_output_ok {out : Value} {n : Nat}
    (taken : (p.call plugin proc g).output a = .ok (out, n)) :
    p.step a plugin proc g =
      (((p.call plugin proc g).left a).2.1,
        { data := out
          context := g.context.merge ((p.call plugin proc g).context a)
          result := g.result.addProcessorResult plugin ((p.call plugin proc g).report a)
          trail := ((p.call plugin proc g).left a).2.2.trail }, none) := by
  rcases left : (p.call plugin proc g).left a with ⟨outcome, proc', scene⟩
  have run : proc.process a g.data (p.call plugin proc g).scene = (outcome, proc', scene) := left
  obtain ⟨returned, size⟩ := Call.output_eq_ok_iff.mp taken
  obtain rfl : outcome = .ok out := by simpa only [Call.outcome, left] using returned
  simp only [Call.report, Call.context, taken, left]
  simp only [call] at run
  simp only [step, run, size]

theorem context_onFailure (p : Pipeline) (plugin : Value) (fault : Fault) (g : Progress) :
    (p.onFailure plugin fault g).1.context = g.context := by
  unfold onFailure
  split
  · rfl
  · cases p.mode <;> rfl

theorem step_of_output_error {fault : Fault}
    (refused : (p.call plugin proc g).output a = .error fault) :
    p.step a plugin proc g =
      (((p.call plugin proc g).left a).2.1,
        { (p.onFailure plugin fault { g with
            data := (p.call plugin proc g).dataAfter a
            trail := ((p.call plugin proc g).left a).2.2.trail }).1 with
          context := g.context.merge ((p.call plugin proc g).context a) },
        (p.onFailure plugin fault { g with
            data := (p.call plugin proc g).dataAfter a
            trail := ((p.call plugin proc g).left a).2.2.trail }).2) := by
  rcases left : (p.call plugin proc g).left a with ⟨outcome, proc', scene⟩
  have run : proc.process a g.data (p.call plugin proc g).scene = (outcome, proc', scene) := left
  simp only [Call.context, Call.dataAfter, Call.outcome, left]
  simp only [Call.output, Call.outcome, left] at refused
  simp only [call] at run
  split at refused
  · cases refused
    simp only [step, run, call, context_onFailure]
  · split at refused
    · rename_i out fault' unsized
      cases refused
      simp only [step, run, unsized, context_onFailure]
    · cases refused

theorem step_of_skipped {fault : Fault} {id : String} (mode : p.mode = .continue)
    (refused : (p.call plugin proc g).output a = .error fault) (written : plugin.plain = .ok id) :
    ∃ g', p.step a plugin proc g = (((p.call plugin proc g).left a).2.1, g', none) ∧
      g'.data = (p.call plugin proc g).dataAfter a ∧
      g'.context = g.context.merge ((p.call plugin proc g).context a) ∧
      g'.result = (g.result.addProcessorResult plugin ((p.call plugin proc g).report a)).addWarning
        (id ++ " failed: " ++ fault.shown) := by
  have reported : (p.call plugin proc g).report a = .failure fault.shown := by
    simp only [Call.report, refused]
  rw [reported, step_of_output_error refused]
  simp only [onFailure, failureOf_of_told written (Call.isTold_of_output refused), mode]
  exact ⟨_, rfl, rfl, rfl, rfl⟩

theorem step_of_unwritten {fault : Fault} {unwritten : ValueFault}
    (refused : (p.call plugin proc g).output a = .error fault)
    (unnamed : plugin.plain = .error unwritten) :
    (p.step a plugin proc g).2.2 = some (.broken (.value unwritten)) := by
  rw [step_of_output_error refused]
  simp only [onFailure, failureOf_of_unnamed unnamed]

end Step

/-- What a call does to where a run stands, if the run goes on after it. -/
structure Went (a : Ambient) (g : Progress) (c : Call) (g' : Progress) : Prop where
  given : c.data = g.data
  child : c.scene.context = g.context.child c.processor.name
  data : g'.data = c.dataAfter a
  context : g'.context = g.context.merge (c.context a)
  result : ∃ warnings,
    g'.result = { g.result.addProcessorResult c.plugin (c.report a) with warnings }
  named : ∀ fault, c.output a = .error fault → ∃ id, c.plugin.plain = .ok id

theorem went_of_step {p : Pipeline} {a : Ambient} {plugin : Value} {proc proc' : Processor}
    {g g' : Progress} (h : p.step a plugin proc g = (proc', g', none)) :
    Went a g (p.call plugin proc g) g' := by
  cases taken : (p.call plugin proc g).output a with
  | ok output =>
    obtain ⟨out, n⟩ := output
    rw [step_of_output_ok taken] at h
    cases h
    have returned := (Call.output_eq_ok_iff.mp taken).1
    refine ⟨rfl, rfl, by simp only [Call.dataAfter, returned], rfl, ⟨_, rfl⟩, fun fault failed => ?_⟩
    rw [taken] at failed
    cases failed
  | error fault =>
    cases written : plugin.plain with
    | error unwritten =>
      have left := step_of_unwritten taken written
      rw [h] at left
      cases left
    | ok id =>
      cases mode : p.mode with
      | strict =>
        rw [step_of_output_error taken] at h
        simp only [onFailure, failureOf_of_told written (Call.isTold_of_output taken), mode] at h
        cases h
      | «continue» =>
        obtain ⟨g₁, step, data, context, result⟩ := step_of_skipped mode taken written
        rw [step] at h
        cases h
        exact ⟨rfl, rfl, data, context, ⟨_, result⟩, fun _ _ => ⟨id, written⟩⟩

theorem Went.data_of_ok {a : Ambient} {g g' : Progress} {c : Call} {out : Value} (h : Went a g c g')
    (returned : c.outcome a = .ok out) : g'.data = out := by
  rw [h.data, Call.dataAfter, returned]

theorem Went.data_of_error {a : Ambient} {g g' : Progress} {c : Call} {fault : Fault}
    (h : Went a g c g') (failed : c.outcome a = .error fault) : g'.data = g.data := by
  rw [h.data, Call.dataAfter, failed, h.given]

/-- Calls one after the other, from where a run stands to where it stands after them. -/
inductive Runs (a : Ambient) : Progress → List Call → Progress → Prop
  | nil (g : Progress) : Runs a g [] g
  | cons {g g₁ g' : Progress} {c : Call} {cs : List Call} (first : Went a g c g₁)
    (others : Runs a g₁ cs g') : Runs a g (c :: cs) g'

section Steps

variable {p : Pipeline} {a : Ambient} {procs procs' : List (Value × Processor)} {g g' : Progress}

theorem calls_cons_of_step {plugin : Value} {proc proc' : Processor}
    (h : p.step a plugin proc g = (proc', g', none)) :
    p.calls a ((plugin, proc) :: procs) g = p.call plugin proc g :: p.calls a procs g' := by
  simp only [calls, h]

theorem runs_of_steps (h : p.steps a procs g = (procs', g', none)) :
    Runs a g (p.calls a procs g) g' ∧
      (p.calls a procs g).map (fun c => (c.plugin, c.processor)) = procs := by
  induction procs generalizing g procs' with
  | nil =>
    cases h
    exact ⟨.nil _, rfl⟩
  | cons head rest ih =>
    obtain ⟨plugin, proc⟩ := head
    rcases step : p.step a plugin proc g with ⟨proc₁, g₁, _ | exit⟩
    · rcases later : p.steps a rest g₁ with ⟨rest', g₂, exit⟩
      simp only [steps, step, later] at h
      cases h
      obtain ⟨runs, called⟩ := ih later
      rw [calls_cons_of_step step]
      exact ⟨.cons (went_of_step step) runs, by rw [List.map_cons, called]; rfl⟩
    · simp only [steps, step] at h
      cases h

/-- Outside of strict mode only a plugin id that cannot be written out leaves a run early. -/
theorem exists_steps_of_named (mode : p.mode = .continue)
    (named : ∀ c ∈ p.calls a procs g, ∀ fault, c.output a = .error fault → ∃ id, c.plugin.plain = .ok id) :
    ∃ procs' g', p.steps a procs g = (procs', g', none) := by
  induction procs generalizing g with
  | nil => exact ⟨_, _, rfl⟩
  | cons head rest ih =>
    obtain ⟨plugin, proc⟩ := head
    obtain ⟨proc₁, g₁, step⟩ : ∃ proc₁ g₁, p.step a plugin proc g = (proc₁, g₁, none) := by
      have here : p.call plugin proc g ∈ p.calls a ((plugin, proc) :: rest) g := by simp [calls]
      cases taken : (p.call plugin proc g).output a with
      | ok output => exact ⟨_, _, step_of_output_ok taken⟩
      | error fault =>
        obtain ⟨id, written⟩ := named _ here fault taken
        obtain ⟨g₁, step, -⟩ := step_of_skipped mode taken written
        exact ⟨_, g₁, step⟩
    rw [calls_cons_of_step step] at named
    obtain ⟨procs', g', later⟩ := ih fun c hc => named c (List.mem_cons_of_mem _ hc)
    exact ⟨_, g', by simp only [steps, step, later]; rfl⟩

end Steps

namespace Runs

variable {a : Ambient} {g g' : Progress} {cs : List Call}

theorem recordsFailed_eq (h : Runs a g cs g') : g'.context.metadata.recordsFailed =
    g.context.metadata.recordsFailed + (cs.map fun c => (c.context a).metadata.recordsFailed).sum := by
  induction h with
  | nil g => simp
  | cons first _ ih =>
    rw [ih, first.context, List.map_cons, List.sum_cons, Context.merge]
    simp only
    omega

theorem failureRecords_eq (h : Runs a g cs g') : g'.context.failureRecords =
    g.context.failureRecords ++ cs.flatMap fun c => (c.context a).failureRecords := by
  induction h with
  | nil g => simp
  | cons first _ ih =>
    rw [ih, first.context, List.flatMap_cons, ← List.append_assoc, Context.merge]

theorem totalItems_eq (h : Runs a g cs g') : g'.result.totalItems = g.result.totalItems := by
  induction h with
  | nil g => rfl
  | cons first _ ih =>
    obtain ⟨warnings, result⟩ := first.result
    rw [ih, result]
    rfl

theorem named (h : Runs a g cs g') :
    ∀ c ∈ cs, ∀ fault, c.output a = .error fault → ∃ id, c.plugin.plain = .ok id := by
  induction h with
  | nil g => simp
  | cons first _ ih => exact List.forall_mem_cons.mpr ⟨first.named, ih⟩

end Runs

def start (p : Pipeline) (a : Ambient) (data : Value) (n : Nat) (t : Trail) : Progress :=
  { data
    context := { pipelineName := .text p.name, sink := p.sink }
    result := { pipelineId := p.runId a, startTime := a.now, totalItems := n }
    trail := t.note (.of p.logger .info
      ("Starting pipeline: " ++ p.name ++ " (ID: " ++ p.runId a ++ ")")) }

def callsOn (p : Pipeline) (a : Ambient) (data : Value) (n : Nat) (t : Trail) : List Call :=
  p.calls a p.processors (p.start a data n t)

structure Returned (r : PipelineResult) (g : Progress) : Prop where
  output : r.output = g.data
  totalItems : r.totalItems = g.result.totalItems
  processedItems : ∃ m : Nat, g.data.length = .ok m ∧ r.processedItems = m
  failedItems : r.failedItems = g.context.metadata.recordsFailed
  failureRecords : r.failureRecords = g.context.failureRecords
  processorResults : r.processorResults = g.result.processorResults
  errors : r.errors = g.result.errors ++ g.context.errors

variable {p p' : Pipeline} {a : Ambient} {data : Value} {n : Nat} {t t' : Trail} {r : PipelineResult}

theorem execute_eq (sized : data.length = .ok n) :
    p.execute a (some data) { pipelineId := p.runId a, startTime := a.now }
        (p.start a data n t).trail =
      match p.steps a p.processors (p.start a data n t) with
      | (processors, g, some exit) => (some exit, g.result, processors, g.trail)
      | (processors, g, none) =>
        match conclude g with
        | (.ok _, r) => (none, r, processors, g.trail)
        | (.error fault, r) => (some (.broken (.value fault)), r, processors, g.trail) := by
  simp only [execute, sized]
  rfl

theorem exists_run_of_steps {procs' : List (Value × Processor)} {g : Progress} {m : Nat}
    (sized : data.length = .ok n)
    (steps : p.steps a p.processors (p.start a data n t) = (procs', g, none))
    (sized' : g.data.length = .ok m) :
    ∃ r p' t', p.run a (some data) t = (.ok r, p', t') ∧ Returned r g := by
  have executed := @execute_eq p a data n t sized
  rw [steps] at executed
  simp only [conclude, sized', start] at executed
  simp only [run, executed]
  refine ⟨_, _, _, rfl, ?_⟩
  split
  · exact ⟨rfl, rfl, ⟨m, sized', rfl⟩, rfl, rfl, rfl, rfl⟩
  · exact ⟨rfl, rfl, ⟨m, sized', rfl⟩, rfl, rfl, rfl, rfl⟩

theorem exists_steps_of_run (sized : data.length = .ok n)
    (h : p.run a (some data) t = (.ok r, p', t')) :
    ∃ procs' g, p.steps a p.processors (p.start a data n t) = (procs', g, none) ∧ Returned r g := by
  have executed := @execute_eq p a data n t sized
  rcases steps : p.steps a p.processors (p.start a data n t) with ⟨procs', g, _ | exit⟩
  · cases sized' : g.data.length with
    | ok m =>
      obtain ⟨r', p₁, t₁, run, returned⟩ := exists_run_of_steps sized steps sized'
      rw [run] at h
      cases h
      exact ⟨procs', g, rfl, returned⟩
    | error fault =>
      rw [steps] at executed
      simp only [conclude, sized', start] at executed
      simp only [run, executed] at h
      cases h
  · rw [steps] at executed
    simp only [start] at executed
    simp only [run, executed] at h
    cases h

end Pipeline

end RecordPipeline
