import RecordPipeline.Processor.Script
import RecordPipeline.Proofs.Pipeline.Calls
import RecordPipeline.Proofs.Value.Key
set_option autoImplicit false

namespace RecordPipeline

open Value (KeysApart putEntry atKey?)

theorem PipelineResult.processorResults_add {r : PipelineResult} {plugin : Value}
    (absent : atKey? plugin r.processorResults = none) (report : StepReport) :
    (r.addProcessorResult plugin report).processorResults =
      r.processorResults ++ [(plugin, [report])] := by
  simp only [addProcessorResult, absent, Value.putEntry_of_atKey?_eq_none absent]
  rfl

namespace Pipeline

/-- Data fed through calls in order: a call that is reported as a success passes on what it
returned, any other leaves the data as it was given. -/
inductive Fed (a : Ambient) : Value → List Call → Value → Prop
  | nil (data : Value) : Fed a data [] data
  | passed {data out last : Value} {c : Call} {cs : List Call} (given : c.data = data)
    (success : (c.report a).isSuccess = true) (returned : c.outcome a = .ok out)
    (others : Fed a out cs last) : Fed a data (c :: cs) last
  | skipped {data last : Value} {c : Call} {cs : List Call} (given : c.data = data)
    (failure : (c.report a).isSuccess = false) (others : Fed a data cs last) :
    Fed a data (c :: cs) last

namespace Call

variable {c : Call} {a : Ambient}

theorem isSuccess_report_iff :
    (c.report a).isSuccess = true ↔ ∃ out n, c.outcome a = .ok out ∧ out.length = .ok n := by
  simp only [← output_eq_ok_iff, report]
  cases c.output a with
  | error fault => simp [StepReport.isSuccess]
  | ok output =>
    obtain ⟨out, n⟩ := output
    simp [StepReport.isSuccess]

theorem isSuccess_report_of_error {fault : Fault} (h : c.outcome a = .error fault) :
    (c.report a).isSuccess = false := by
  refine eq_false_of_ne_true fun success => ?_
  obtain ⟨out, n, returned, -⟩ := isSuccess_report_iff.mp success
  rw [h] at returned
  cases returned

end Call

namespace Runs

variable {a : Ambient} {g g' : Progress} {cs : List Call}

theorem processorResults_eq (h : Runs a g cs g')
    (apart : KeysApart (g.result.processorResults ++ cs.map fun c => (c.plugin, [c.report a]))) :
    g'.result.processorResults =
      g.result.processorResults ++ cs.map fun c => (c.plugin, [c.report a]) := by
  induction h with
  | nil g => simp
  | @cons g g₁ g' c cs first _ ih =>
    obtain ⟨warnings, result⟩ := first.result
    have absent : atKey? c.plugin g.result.processorResults = none := by
      have across := (List.pairwise_append.mp apart).2.2
      exact Value.atKey?_eq_none_iff.mpr fun e he => across e he _ List.mem_cons_self
    have added : g₁.result.processorResults =
        g.result.processorResults ++ [(c.plugin, [c.report a])] := by
      rw [result]
      exact PipelineResult.processorResults_add absent (c.report a)
    rw [List.map_cons, List.append_cons, ← added] at apart
    rw [ih apart, added, List.map_cons, List.append_assoc, List.singleton_append]

theorem fed_of_sized (h : Runs a g cs g')
    (outputs : ∀ c ∈ cs, ∀ out, c.outcome a = .ok out → ∃ m, out.length = .ok m)
    (sized : ∃ n, g.data.length = .ok n) :
    Fed a g.data cs g'.data ∧ ∃ m, g'.data.length = .ok m := by
  induction h with
  | nil g => exact ⟨.nil _, sized⟩
  | @cons g g₁ g' c cs first _ ih =>
    have others := fun c' hc' => outputs c' (List.mem_cons_of_mem _ hc')
    cases outcome : c.outcome a with
    | ok out =>
      have moved : g₁.data = out := first.data_of_ok outcome
      obtain ⟨m, size⟩ := outputs c List.mem_cons_self out outcome
      obtain ⟨fed, last⟩ := ih others (by rw [moved]; exact ⟨m, size⟩)
      rw [moved] at fed
      exact ⟨.passed first.given (Call.isSuccess_report_iff.mpr ⟨out, m, outcome, size⟩) outcome fed,
        last⟩
    | error fault =>
      have stayed : g₁.data = g.data := first.data_of_error outcome
      obtain ⟨fed, last⟩ := ih others (by rw [stayed]; exact sized)
      rw [stayed] at fed
      exact ⟨.skipped first.given (Call.isSuccess_report_of_error outcome) fed, last⟩

theorem eq_of_fed {data last : Value} (h : Runs a g cs g') (fed : Fed a data cs last)
    (ends : last = g'.data) : data = g.data := by
  cases h with
  | nil g =>
    cases fed
    exact ends
  | cons first _ =>
    cases fed with
    | passed given => exact given.symm.trans first.given
    | skipped given => exact given.symm.trans first.given

theorem sized_of_fed (h : Runs a g cs g') (fed : Fed a g.data cs g'.data)
    (sized : ∃ n, g.data.length = .ok n) :
    ∀ c ∈ cs, ∀ out, c.outcome a = .ok out → ∃ m, out.length = .ok m := by
  induction h with
  | nil g => simp
  | @cons g g₁ g' c cs first others ih =>
    rw [List.forall_mem_cons]
    cases fed with
    | @passed _ out _ _ _ given success returned rest =>
      have moved : g₁.data = out := first.data_of_ok returned
      have here : ∀ out', c.outcome a = .ok out' → ∃ m, out'.length = .ok m := by
        obtain ⟨out₁, m, outcome, size⟩ := Call.isSuccess_report_iff.mp success
        intro out' outcome'
        rw [outcome] at outcome'
        cases outcome'
        exact ⟨m, size⟩
      rw [← moved] at rest
      exact ⟨here, ih rest (moved ▸ here out returned)⟩
    | skipped given failure rest =>
      have stayed := others.eq_of_fed rest rfl
      refine ⟨?_, ih (stayed ▸ rest) (stayed ▸ sized)⟩
      intro out outcome
      have moved : g₁.data = out := first.data_of_ok outcome
      rw [← moved, ← stayed]
      exact sized

end Runs

/-- Outside of strict mode a run on a batch with a length returns, reports every processor once and
feeds the batch through those it reports as successes, exactly when no call returns something
without a length and no call fails under a plugin id that cannot be written out. -/
theorem run_feeds_iff {p : Pipeline} {a : Ambient} {batch : Value} {n : Nat} {t : Trail}
    (mode : p.mode = .continue) (apart : KeysApart p.processors) (sized : batch.length = .ok n) :
    (∃ r p' t', p.run a (some batch) t = (.ok r, p', t') ∧
        (p.callsOn a batch n t).map (fun c => (c.plugin, c.processor)) = p.processors ∧
        r.processorResults = (p.callsOn a batch n t).map (fun c => (c.plugin, [c.report a])) ∧
        Fed a batch (p.callsOn a batch n t) r.output) ↔
      ∀ c ∈ p.callsOn a batch n t,
        (∀ out, c.outcome a = .ok out → ∃ m, out.length = .ok m) ∧
        ∀ fault, c.outcome a = .error fault → ∃ id, c.plugin.plain = .ok id := by
  constructor
  · rintro ⟨r, p', t', run, -, -, fed⟩ c hc
    obtain ⟨procs', g, steps, returned⟩ := exists_steps_of_run sized run
    obtain ⟨runs, -⟩ := runs_of_steps steps
    rw [returned.output] at fed
    exact ⟨runs.sized_of_fed fed ⟨n, sized⟩ c hc, fun fault failed =>
      runs.named c hc fault (Call.output_eq_error_of_outcome failed)⟩
  · intro sound
    have named : ∀ c ∈ p.callsOn a batch n t, ∀ fault, c.output a = .error fault →
        ∃ id, c.plugin.plain = .ok id := by
      intro c hc fault failed
      cases outcome : c.outcome a with
      | error fault' => exact (sound c hc).2 fault' outcome
      | ok out =>
        obtain ⟨m, size⟩ := (sound c hc).1 out outcome
        rw [Call.output_eq_ok_iff.mpr ⟨outcome, size⟩] at failed
        cases failed
    obtain ⟨procs', g, steps⟩ := exists_steps_of_named mode named
    obtain ⟨runs, called⟩ := runs_of_steps steps
    obtain ⟨fed, m, sized'⟩ := runs.fed_of_sized (fun c hc => (sound c hc).1) ⟨n, sized⟩
    obtain ⟨r, p', t', run, returned⟩ := exists_run_of_steps sized steps sized'
    have keys : KeysApart ((p.callsOn a batch n t).map fun c => (c.plugin, [c.report a])) := by
      rw [← called, Value.keysApart_iff_map_fst, List.map_map] at apart
      rw [Value.keysApart_iff_map_fst, List.map_map]
      exact apart
    refine ⟨r, p', t', run, called, ?_, ?_⟩
    · rw [returned.processorResults]
      exact runs.processorResults_eq keys
    · rw [returned.output]
      exact fed

theorem run_feeds_past_failure :
    let i := Identity.make "script" "1.0.0" (.text "script") .null
    let failing := Script.processor i none none [.raise (.raised .runtime (.ok "boom"))]
    let p : Pipeline :=
      { name := "telemetry", id := "0", activator := { enforce := true }
        processors := [(.text "script", failing)] }
    let a : Ambient := { now := .epoch, settings := .unset }
    let batch := Value.list [.int 1]
    ∃ r p' t', p.run a (some batch) {} = (.ok r, p', t') ∧
      (p.callsOn a batch 1 {}).map (fun c => (c.plugin, c.processor)) = p.processors ∧
      r.processorResults = (p.callsOn a batch 1 {}).map (fun c => (c.plugin, [c.report a])) ∧
      Fed a batch (p.callsOn a batch 1 {}) r.output := by
  refine (run_feeds_iff rfl (by decide) rfl).mpr fun c hc => ?_
  obtain rfl := List.mem_singleton.mp hc
  refine ⟨fun out returned => ?_, fun fault _ => ⟨"script", rfl⟩⟩
  cases returned

/-- A processor that returns a number ends the run on a batch that has a length. -/
theorem run_fails_on_number :
    let i := Identity.make "script" "1.0.0" (.text "script") .null
    let p : Pipeline :=
      { name := "telemetry", id := "0", activator := { enforce := true }
        processors := [(.text "script", Script.processor i none none [.answer (.int 5)])] }
    ∃ error, (p.run { now := .epoch, settings := .unset } (some (.list [.int 1])) {}).1 = .error error :=
  ⟨_, rfl⟩

end Pipeline

end RecordPipeline
