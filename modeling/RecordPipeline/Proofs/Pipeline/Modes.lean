import RecordPipeline.Proofs.Pipeline.Stopping
set_option autoImplicit false

/-!
The two modes of a pipeline side by side. As long as no call fails they make the same steps, so a
strict run returns what the other one returns without a failure. A strict run that raises has
stopped at the first call that fails, with the reports that the other run has of the processors
called until then.
-/

namespace RecordPipeline

open Value (KeysApart atKey?)

/-- A result in which no processor is reported as failed. -/
def PipelineResult.Clean (r : PipelineResult) : Prop :=
  ∀ reports ∈ r.processorResults, ∀ report ∈ reports.2, ∀ error, report ≠ .failure error

namespace Pipeline

def inMode (p : Pipeline) (mode : ErrorMode) : Pipeline := { p with mode }

section Reports

variable {p : Pipeline} {a : Ambient} {plugin : Value} {proc proc' : Processor} {g g' : Progress}
  {procs : List (Value × Processor)} {exit : Option Exit}

theorem reports_of_step (absent : atKey? plugin g.result.processorResults = none)
    (h : p.step a plugin proc g = (proc', g', exit)) :
    g'.result.processorResults =
        g.result.processorResults ++ [(plugin, [(p.call plugin proc g).report a])] ∨
      g'.result.processorResults = g.result.processorResults ∧ exit ≠ none := by
  cases taken : (p.call plugin proc g).output a with
  | ok output =>
    rw [step_of_output_ok taken] at h
    cases h
    exact .inl (PipelineResult.processorResults_add absent _)
  | error fault =>
    have reported : (p.call plugin proc g).report a = .failure fault.shown := by
      simp only [Call.report, taken]
    rw [step_of_output_error taken] at h
    rw [reported]
    cases written : plugin.plain with
    | error unwritten =>
      simp only [onFailure, failureOf_of_unnamed written] at h
      cases h
      exact .inr ⟨rfl, by simp⟩
    | ok id =>
      refine .inl ?_
      have named := failureOf_of_told written (Call.isTold_of_output taken)
      cases mode : p.mode <;> simp only [onFailure, named, mode] at h <;> cases h <;>
        exact PipelineResult.processorResults_add absent _

theorem absent_of_keysApart {earlier : List (Value × List StepReport)}
    (apart : KeysApart (earlier ++ ((plugin, proc) :: procs).map fun e => (e.1, []))) :
    atKey? plugin earlier = none := by
  have across := (List.pairwise_append.mp apart).2.2
  exact Value.atKey?_eq_none_iff.mpr fun e he => across e he _ List.mem_cons_self

theorem keysApart_of_reports {earlier : List (Value × List StepReport)} (reports : List StepReport)
    (apart : KeysApart (earlier ++ ((plugin, proc) :: procs).map fun e => (e.1, []))) :
    KeysApart ((earlier ++ [(plugin, reports)]) ++ procs.map fun e => (e.1, [])) := by
  rw [Value.keysApart_iff_map_fst] at apart ⊢
  simpa using apart

theorem exists_reports_of_steps
    (apart : KeysApart (g.result.processorResults ++ procs.map fun e => (e.1, []))) :
    ∃ reports, (p.steps a procs g).2.1.result.processorResults =
        g.result.processorResults ++ reports ∧
      reports.map Prod.fst <+: procs.map Prod.fst := by
  induction procs generalizing g with
  | nil => exact ⟨[], by simp [steps], by simp⟩
  | cons head rest ih =>
    obtain ⟨plugin, proc⟩ := head
    rcases step : p.step a plugin proc g with ⟨proc₁, g₁, _ | exit₁⟩
    · rcases reports_of_step (absent_of_keysApart apart) step with added | ⟨-, left⟩
      · have apart' := keysApart_of_reports [(p.call plugin proc g).report a] apart
        rw [← added] at apart'
        obtain ⟨reports, later, order⟩ := ih apart'
        refine ⟨(plugin, [(p.call plugin proc g).report a]) :: reports, ?_, ?_⟩
        · simp only [steps, step]
          rw [later, added, List.append_assoc, List.singleton_append]
        · simpa using order
      · exact absurd rfl left
    · simp only [steps, step]
      rcases reports_of_step (absent_of_keysApart apart) step with added | ⟨same, -⟩
      · exact ⟨_, added, by simp⟩
      · exact ⟨[], by simpa using same, by simp⟩

end Reports

section Sound

variable {p : Pipeline} {a : Ambient} {procs : List (Value × Processor)} {g : Progress}

theorem steps_inMode (mode : ErrorMode)
    (sound : ∀ c ∈ p.calls a procs g, ∃ output, c.output a = .ok output) :
    (p.inMode mode).steps a procs g = p.steps a procs g := by
  induction procs generalizing g with
  | nil => rfl
  | cons head rest ih =>
    obtain ⟨plugin, proc⟩ := head
    obtain ⟨⟨out, n⟩, taken⟩ : ∃ output, (p.call plugin proc g).output a = .ok output :=
      sound _ (by simp [calls])
    have here := step_of_output_ok taken
    have there : (p.inMode mode).step a plugin proc g = p.step a plugin proc g := by
      rw [here]
      exact step_of_output_ok (p := p.inMode mode) taken
    rw [calls_cons_of_step here] at sound
    have later := ih fun c hc => sound c (List.mem_cons_of_mem _ hc)
    simp only [steps, there, here, later]

end Sound

section Run

variable {p p' : Pipeline} {a : Ambient} {data : Value} {n : Nat} {t t' : Trail} {r : PipelineResult}

theorem exists_run_inMode (mode : ErrorMode) (sized : data.length = .ok n)
    (sound : ∀ c ∈ p.callsOn a data n t, ∃ output, c.output a = .ok output)
    (h : p.run a (some data) t = (.ok r, p', t')) :
    ∃ q', (p.inMode mode).run a (some data) t = (.ok r, q', t') := by
  have same := steps_inMode mode sound
  rcases run : (p.inMode mode).run a (some data) t with ⟨outcome, q', t₁⟩
  have ended := ended_of_run sized run
  cases ended_of_run sized h with
  | returned steps sized₁ =>
    rw [steps] at same
    cases ended with
    | returned steps' sized' =>
      cases same.symm.trans steps'
      cases sized₁.symm.trans sized'
      exact ⟨_, rfl⟩
    | stopped steps' => cases same.symm.trans steps'
    | unsized steps' unsized =>
      cases same.symm.trans steps'
      cases sized₁.symm.trans unsized

theorem clean_iff (apart : KeysApart p.processors) (sized : data.length = .ok n)
    (h : p.run a (some data) t = (.ok r, p', t')) :
    r.Clean ↔ ∀ c ∈ p.callsOn a data n t, ∃ output, c.output a = .ok output := by
  obtain ⟨procs', g, steps, returned⟩ := exists_steps_of_run sized h
  obtain ⟨runs, called⟩ := runs_of_steps steps
  have keys : KeysApart ((p.callsOn a data n t).map fun c => (c.plugin, [c.report a])) := by
    have called' : (p.callsOn a data n t).map (fun c => (c.plugin, c.processor)) = p.processors :=
      called
    rw [← called', Value.keysApart_iff_map_fst, List.map_map] at apart
    rw [Value.keysApart_iff_map_fst, List.map_map]
    exact apart
  have reports : r.processorResults = (p.callsOn a data n t).map fun c => (c.plugin, [c.report a]) := by
    rw [returned.processorResults]
    exact runs.processorResults_eq keys
  simp only [PipelineResult.Clean, reports, List.forall_mem_map, List.forall_mem_singleton]
  refine forall₂_congr fun c _ => ?_
  cases taken : c.output a with
  | ok output => simp [Call.report, taken]
  | error fault => simp [Call.report, taken]

end Run

section Strict

variable {p p' : Pipeline} {a : Ambient} {plugin : Value} {proc : Processor} {g : Progress}
  {procs : List (Value × Processor)}

theorem step_of_aborted {fault : Fault} {id : String} (mode : p.mode = .strict)
    (refused : (p.call plugin proc g).output a = .error fault) (written : plugin.plain = .ok id) :
    ∃ g' exit, p.step a plugin proc g = (((p.call plugin proc g).left a).2.1, g', some exit) ∧
      g'.result = g.result.addProcessorResult plugin ((p.call plugin proc g).report a) := by
  have reported : (p.call plugin proc g).report a = .failure fault.shown := by
    simp only [Call.report, refused]
  rw [reported, step_of_output_error refused]
  simp only [onFailure, failureOf_of_told written (Call.isTold_of_output refused), mode]
  exact ⟨_, _, rfl, rfl⟩

/-- A step in both modes. It is the same one when its call succeeds or its plugin id cannot be
written out; otherwise the strict one ends the run, with the report that the other one goes on with.
-/
theorem steps_compare (absent : atKey? plugin g.result.processorResults = none) :
    (∃ proc₁ g₁, (p.inMode .strict).step a plugin proc g = (proc₁, g₁, none) ∧
      (p.inMode .continue).step a plugin proc g = (proc₁, g₁, none) ∧
      g₁.result.processorResults =
        g.result.processorResults ++ [(plugin, [(p.call plugin proc g).report a])]) ∨
    (∃ proc₁ g₁ exit, (p.inMode .strict).step a plugin proc g = (proc₁, g₁, some exit) ∧
      (p.inMode .continue).step a plugin proc g = (proc₁, g₁, some exit) ∧ g₁.result = g.result) ∨
    ∃ proc₁ g₁ g₂ exit, (p.inMode .strict).step a plugin proc g = (proc₁, g₁, some exit) ∧
      (p.inMode .continue).step a plugin proc g = (proc₁, g₂, none) ∧
      g₁.result.processorResults =
        g.result.processorResults ++ [(plugin, [(p.call plugin proc g).report a])] ∧
      g₂.result.processorResults = g₁.result.processorResults := by
  have added := PipelineResult.processorResults_add absent ((p.call plugin proc g).report a)
  cases taken : (p.call plugin proc g).output a with
  | ok output =>
    exact .inl ⟨_, _, step_of_output_ok (p := p.inMode .strict) taken,
      step_of_output_ok (p := p.inMode .continue) taken, added⟩
  | error fault =>
    refine .inr ?_
    cases written : plugin.plain with
    | error unwritten =>
      rw [step_of_output_error (p := p.inMode .strict) taken,
        step_of_output_error (p := p.inMode .continue) taken]
      simp only [onFailure, failureOf_of_unnamed written]
      exact .inl ⟨_, _, _, rfl, rfl, rfl⟩
    | ok id =>
      obtain ⟨g₁, exit, strict, result⟩ := step_of_aborted (p := p.inMode .strict) rfl taken written
      obtain ⟨g₂, lenient, -, -, result'⟩ := step_of_skipped (p := p.inMode .continue) rfl taken written
      refine .inr ⟨_, g₁, g₂, exit, strict, lenient, ?_, ?_⟩
      · rw [result]
        exact added
      · rw [result, result']
        rfl

theorem strict_prefix
    (apart : KeysApart (g.result.processorResults ++ procs.map fun e => (e.1, []))) :
    (p.inMode .strict).calls a procs g <+: (p.inMode .continue).calls a procs g ∧
      ((p.inMode .strict).steps a procs g).2.1.result.processorResults =
        ((p.inMode .continue).steps a procs g).2.1.result.processorResults.take
          (g.result.processorResults.length + ((p.inMode .strict).calls a procs g).length) := by
  induction procs generalizing g with
  | nil => exact ⟨List.prefix_rfl, by simp [steps, calls]⟩
  | cons head rest ih =>
    obtain ⟨plugin, proc⟩ := head
    have apart' := keysApart_of_reports [(p.call plugin proc g).report a] apart
    obtain ⟨proc₁, g₁, strict, lenient, added⟩ | ⟨proc₁, g₁, exit, strict, lenient, same⟩ |
      ⟨proc₁, g₁, g₂, exit, strict, lenient, added, added'⟩ :=
      @steps_compare p a plugin proc g (absent_of_keysApart apart)
    · rw [← added] at apart'
      obtain ⟨calls, reports⟩ := ih apart'
      rw [calls_cons_of_step strict, calls_cons_of_step lenient]
      refine ⟨(List.prefix_cons_inj _).mpr calls, ?_⟩
      simp only [steps, strict, lenient, reports, added, List.length_append, List.length_cons,
        List.length_nil]
      congr 1
      omega
    · rw [calls_cons_of_exit strict, calls_cons_of_exit lenient]
      refine ⟨List.prefix_rfl, ?_⟩
      simp only [steps, strict, lenient, same]
      rw [List.take_of_length_le (by simp)]
    · rw [← added, ← added'] at apart'
      obtain ⟨later, reports, -⟩ := exists_reports_of_steps (p := p.inMode .continue) (a := a) apart'
      rw [calls_cons_of_exit strict, calls_cons_of_step lenient]
      refine ⟨List.prefix_append [_] _, ?_⟩
      simp only [steps, strict, lenient, reports, added, added']
      rw [List.take_left' (by simp)]

/-- What a strict run leaves that raises after so many calls, beside the run of the same pipeline
that goes on after failures. -/
structure StopsAt (p : Pipeline) (a : Ambient) (data : Value) (n : Nat) (t : Trail) (k : Nat)
    (error : PipelineError) (p' : Pipeline) : Prop where
  calls : (p.inMode .strict).callsOn a data n t = ((p.inMode .continue).callsOn a data n t).take k
  called : ((p.inMode .strict).callsOn a data n t).map (fun c => (c.plugin, c.processor)) =
    p.processors.take k
  others : p'.processors.drop k = p.processors.drop k
  failed : ∃ before c fault, (p.inMode .strict).callsOn a data n t = before ++ [c] ∧
    before.length + 1 = k ∧ (∀ c' ∈ before, ∃ output, c'.output a = .ok output) ∧
    c.output a = .error fault ∧ ∀ id, c.plugin.plain = .ok id → error = p.failureUnder id fault
  reports : ∃ r r', p'.result = some r ∧
    ((p.inMode .continue).run a (some data) t).2.1.result = some r' ∧
    r.processorResults = r'.processorResults.take k ∧
    r'.processorResults.map Prod.fst <+: p.processors.map Prod.fst

theorem exists_processorResults_of_run {data : Value} {n : Nat} {t : Trail}
    (sized : data.length = .ok n) :
    ∃ r, (p.run a (some data) t).2.1.result = some r ∧ r.processorResults =
      (p.steps a p.processors (p.start a data n t)).2.1.result.processorResults := by
  rcases run : p.run a (some data) t with ⟨outcome, p', t'⟩
  cases ended_of_run sized run with
  | returned steps sized' => exact ⟨_, rfl, by rw [steps]; rfl⟩
  | stopped steps => exact ⟨_, rfl, by rw [steps]; rfl⟩
  | unsized steps unsized => exact ⟨_, rfl, by rw [steps]; rfl⟩

section Beside

variable {data : Value} {t t' : Trail} {n : Nat} (apart : KeysApart p.processors)
include apart

theorem exists_run_strict_iff {r : PipelineResult} :
    (∃ p', (p.inMode .strict).run a (some data) t = (.ok r, p', t')) ↔
      (∃ p', (p.inMode .continue).run a (some data) t = (.ok r, p', t')) ∧ r.Clean := by
  constructor
  · rintro ⟨p', h⟩
    obtain ⟨n, sized⟩ := exists_length_of_run h
    obtain ⟨procs', g, steps, -⟩ := exists_steps_of_run sized h
    have sound := exists_output_of_steps (p := p.inMode .strict) rfl steps
    obtain ⟨q', h'⟩ := exists_run_inMode .continue sized sound h
    have clean := (clean_iff (p := p.inMode .strict) apart sized h).mpr sound
    exact ⟨⟨q', h'⟩, clean⟩
  · rintro ⟨⟨p', h⟩, clean⟩
    obtain ⟨n, sized⟩ := exists_length_of_run h
    have sound := (clean_iff (p := p.inMode .continue) apart sized h).mp clean
    exact exists_run_inMode (p := p.inMode .continue) .strict sized sound h

theorem exists_stopsAt {error : PipelineError} (sized : data.length = .ok n)
    (h : (p.inMode .strict).run a (some data) t = (.error error, p', t')) :
    ∃ k, StopsAt p a data n t k error p' := by
  have keys : KeysApart ((p.start a data n t).result.processorResults ++
      p.processors.map fun e => (e.1, ([] : List StepReport))) := by
    rw [Value.keysApart_iff_map_fst] at apart ⊢
    simpa [start, Function.comp_def] using apart
  obtain ⟨calls, reports⟩ := strict_prefix (p := p) (a := a) keys
  obtain ⟨procs', g, exit, steps, processors, error_eq⟩ : ∃ procs' g exit,
      (p.inMode .strict).steps a p.processors (p.start a data n t) = (procs', g, some exit) ∧
      p'.processors = procs' ∧
      error = (p.inMode .strict).errorOf (failedResult a g.result exit) exit := by
    cases ended_of_run sized h with
    | stopped steps => exact ⟨_, _, _, steps, rfl, rfl⟩
    | unsized steps unsized =>
      obtain ⟨m, sized'⟩ := exists_length_of_strict (p := p.inMode .strict) rfl steps ⟨n, sized⟩
      cases unsized.symm.trans sized'
  obtain ⟨before, c, fault, split, sound, failed, stops⟩ := exists_stop_of_steps steps
  have count : ((p.inMode .strict).callsOn a data n t).length = before.length + 1 := by
    have split' : (p.inMode .strict).callsOn a data n t = before ++ [c] := split
    rw [split', List.length_append, List.length_singleton]
  refine ⟨before.length + 1, ?_⟩
  rw [← count]
  constructor
  case calls => exact List.prefix_iff_eq_take.mp calls
  case called => exact (p.inMode .strict).map_calls a p.processors (p.start a data n t)
  case others =>
    have same := (p.inMode .strict).drop_steps a p.processors (p.start a data n t)
    rw [steps] at same
    rw [processors]
    exact same
  case failed =>
    refine ⟨before, c, fault, split, count.symm, sound rfl, failed, fun id written => ?_⟩
    rw [error_eq]
    cases stops with
    | aborted mode written' =>
      cases written.symm.trans written'
      rfl
    | unnamed unwritable => cases written.symm.trans unwritable
  case reports =>
    obtain ⟨r, left, strict⟩ := (p.inMode .strict).exists_processorResults_of_run (a := a) (t := t) sized
    obtain ⟨r', left', lenient⟩ :=
      (p.inMode .continue).exists_processorResults_of_run (a := a) (t := t) sized
    obtain ⟨later, added, order⟩ := exists_reports_of_steps (p := p.inMode .continue) (a := a) keys
    rw [h] at left
    have all : r'.processorResults = later := lenient.trans added
    refine ⟨r, r', left, left', ?_, by rw [all]; exact order⟩
    rw [strict, lenient]
    refine reports.trans ?_
    rw [start, List.length_nil, Nat.zero_add]
    rfl

end Beside

/-- A strict run returns exactly what the other run returns without a failure. On a batch with a
length it raises only at a call that fails: no later processor is called, and the reports are those
that the other run has of the processors called. -/
theorem strict_run_agrees {data : Value} {t : Trail} (apart : KeysApart p.processors) :
    (∀ r t', (∃ p', (p.inMode .strict).run a (some data) t = (.ok r, p', t')) ↔
      (∃ p', (p.inMode .continue).run a (some data) t = (.ok r, p', t')) ∧ r.Clean) ∧
    ∀ n error p' t', data.length = .ok n →
      (p.inMode .strict).run a (some data) t = (.error error, p', t') →
      ∃ k, StopsAt p a data n t k error p' :=
  ⟨fun _ _ => exists_run_strict_iff apart, fun _ _ _ _ sized h => exists_stopsAt apart sized h⟩

end Strict

theorem strict_run_stops_at_second :
    let pipe (scripts : List (String × Script.Action)) : Pipeline :=
      { name := "telemetry", id := "0", activator := { enforce := true }
        processors := scripts.map fun s => (.text s.1,
          Script.processor (Identity.make s.1 "1.0.0" (.text s.1) .null) none none [s.2]) }
    let p := pipe [("a", .answer (.list [.int 2])), ("b", .raise (.raised .runtime (.ok "boom"))),
      ("c", .answer (.list []))]
    let q := pipe [("a", .answer (.list [.int 2]))]
    let a : Ambient := { now := .epoch, settings := .unset }
    let batch := Value.list [.int 1]
    (∃ error p' t', (p.inMode .strict).run a (some batch) {} = (.error error, p', t') ∧
      ∃ k, StopsAt p a batch 1 {} k error p') ∧
    ∃ r t', (∃ p', (q.inMode .strict).run a (some batch) {} = (.ok r, p', t')) ∧
      (∃ p', (q.inMode .continue).run a (some batch) {} = (.ok r, p', t')) ∧ r.Clean := by
  intro pipe p q a batch
  constructor
  · have raised : ((p.inMode .strict).run a (some batch) {}).1.isOk = false := rfl
    rcases run : (p.inMode .strict).run a (some batch) {} with ⟨error | r, p', t'⟩
    · exact ⟨error, p', t', rfl, (strict_run_agrees (by decide)).2 1 error p' t' rfl run⟩
    · rw [run] at raised
      cases raised
  · have returned : ((q.inMode .strict).run a (some batch) {}).1.isOk = true := rfl
    rcases run : (q.inMode .strict).run a (some batch) {} with ⟨error | r, p', t'⟩
    · rw [run] at returned
      cases returned
    · exact ⟨r, t', ⟨p', rfl⟩, ((strict_run_agrees (by decide)).1 r t').mp ⟨p', run⟩⟩

end Pipeline

end RecordPipeline
