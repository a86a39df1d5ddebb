import RecordPipeline.Proofs.Pipeline.Completion
import RecordPipeline.Proofs.Pipeline.Registered
import RecordPipeline.Proofs.Pipeline.Skipping
import RecordPipeline.Proofs.Processor.Sending
set_option autoImplicit false

/-!
Dead letters of runs. Every call gives the letters it sent to the context of the run when its own
context is merged, also a call that fails or ends the run. A run that returns takes all of them into
its result, so the result, the sink and the journal tell of the same letters; a run that a failing
processor ends takes none.
-/

namespace RecordPipeline

open FieldMapping (GivesUp IsMapper Targets)
open Value (KeysApart)

/-- Merging the context of a call moves the letters that it sent to the context it was made from. -/
theorem Sent.merge {a : Ambient} {t : Trail} {parent : Context} {name : String} {s : Scene}
    {letters : List FailureRecord} (h : Sent a { trail := t, context := parent.child name } s letters) :
    Sent a { trail := t, context := parent } { trail := s.trail, context := parent.merge s.context }
      letters where
  ledger := by
    have failed : s.context.metadata.recordsFailed = 0 + letters.length := h.recordsFailed
    have offered : s.trail.offered = t.offered ++
        if a.settings.deadLetterEnabled && parent.sink.isSome then letters else [] := h.offered
    refine Ledger.ext rfl ?_ ?_ ?_
    · show parent.metadata.recordsFailed + s.context.metadata.recordsFailed = _
      rw [failed, Nat.zero_add]
      rfl
    · exact congrArg (parent.failureRecords ++ ·) h.failureRecords
    · show Scene.route { trail := s.trail, context := parent.merge s.context } a =
        (Scene.route { trail := t, context := parent } a).after letters
      cases on : a.settings.deadLetterEnabled <;> cases heard : parent.sink <;>
        simp [Scene.route, Route.after, Context.merge, offered, on, heard]
  journal := h.journal

namespace Pipeline

def Progress.scene (g : Progress) : Scene := { trail := g.trail, context := g.context }

/-- The letters that a call hands to the dead-letter path: those of the records that its mapper
gives up on, signed by it in the name of the pipeline. All of them are sent. -/
structure Call.Handed (c : Call) (a : Ambient) (pipelineName : Value) (letters : List FailureRecord) :
    Prop where
  givesUp : ∃ ts, GivesUp c.processor ts a c.data c.scene letters
  sent : Sent a c.scene (c.left a).2.2 letters
  signed : ∀ r ∈ letters, r.SignedBy c.processor.toIdentity pipelineName

theorem quiet_logger (p : Pipeline) (severity : Severity) (message : String) :
    (Entry.of p.logger severity message).Quiet := append_ne_deadLetterLogger (by decide) p.name

/-- What a step does after its call, whether or not it ends the run. -/
structure Closes (a : Ambient) (g : Progress) (c : Call) (g' : Progress) : Prop where
  context : g'.context = g.context.merge (c.context a)
  offered : g'.trail.offered = (c.left a).2.2.trail.offered
  journal : g'.trail.deadLetters = (c.left a).2.2.trail.deadLetters
  failureRecords : g'.result.failureRecords = g.result.failureRecords
  failedItems : g'.result.failedItems = g.result.failedItems
  errors : g'.result.errors = g.result.errors

section Step

variable {p : Pipeline} {a : Ambient} {plugin : Value} {proc proc' : Processor} {g g' : Progress}
  {exit : Option Exit}

theorem closes_of_step (h : p.step a plugin proc g = (proc', g', exit)) :
    Closes a g (p.call plugin proc g) g' := by
  cases taken : (p.call plugin proc g).output a with
  | ok output =>
    rw [step_of_output_ok taken] at h
    cases h
    exact ⟨rfl, rfl, rfl, rfl, rfl, rfl⟩
  | error fault =>
    rw [step_of_output_error taken] at h
    cases h
    have journal (m : String) := Trail.deadLetters_note (p.quiet_logger .error m)
      ((p.call plugin proc g).left a).2.2.trail
    cases written : plugin.plain with
    | error unwritten =>
      simp only [onFailure, failureOf_of_unnamed written]
      exact ⟨rfl, rfl, rfl, rfl, rfl, rfl⟩
    | ok id =>
      have named := failureOf_of_told written (Call.isTold_of_output taken)
      cases mode : p.mode with
      | strict =>
        simp only [onFailure, named, mode]
        exact ⟨rfl, rfl, journal _, rfl, rfl, rfl⟩
      | «continue» =>
        simp only [onFailure, named, mode]
        exact ⟨rfl, rfl, journal _, rfl, rfl, rfl⟩

theorem exists_sent_of_step {ts : Targets} (mapper : IsMapper proc ts)
    (h : p.step a plugin proc g = (proc', g', exit)) :
    ∃ letters, (p.call plugin proc g).Handed a g.context.pipelineName letters ∧
      Sent a g.scene g'.scene letters := by
  have closes := closes_of_step h
  obtain ⟨letters, givesUp, called⟩ : ∃ letters,
      GivesUp proc ts a g.data (p.call plugin proc g).scene letters ∧
        Sent a (p.call plugin proc g).scene ((p.call plugin proc g).left a).2.2 letters :=
    ⟨_, mapper.givesUp a _ _, mapper.sent a _ _⟩
  refine ⟨letters, ⟨⟨ts, givesUp⟩, called, givesUp.signedBy⟩, ?_⟩
  have quiet : Entry.Quiet (.attempt p.logger .info do
      return "Running " ++ (← plugin.plain) ++ " processor...") :=
    append_ne_deadLetterLogger (by decide) p.name
  have opened : Sent a g.scene { trail := (p.call plugin proc g).scene.trail, context := g.context } [] :=
    .nil_of_eq rfl (Trail.deadLetters_note quiet g.trail)
  have merged : Sent a g.scene _ letters := opened.trans called.merge
  constructor
  · rw [← merged.ledger]
    simp only [Scene.ledger, Scene.route, Progress.scene, closes.context, closes.offered, Call.context]
  · exact closes.journal.trans merged.journal

end Step

section Steps

variable {p : Pipeline} {a : Ambient} {procs procs' : List (Value × Processor)} {g g' : Progress}
  {exit : Option Exit}

theorem exists_sent_of_steps (mappers : ∀ e ∈ procs, ∃ ts, IsMapper e.2 ts)
    (h : p.steps a procs g = (procs', g', exit)) :
    ∃ handed, List.Forall₂ (fun c letters => c.Handed a g.context.pipelineName letters)
        (p.calls a procs g) handed ∧ Sent a g.scene g'.scene handed.flatten := by
  induction procs generalizing g procs' with
  | nil =>
    cases h
    exact ⟨[], .nil, .refl a _⟩
  | cons head rest ih =>
    obtain ⟨plugin, proc⟩ := head
    obtain ⟨⟨ts, mapper⟩, others⟩ := List.forall_mem_cons.mp mappers
    rcases step : p.step a plugin proc g with ⟨proc₁, g₁, _ | exit₁⟩
    · obtain ⟨letters, call, first⟩ := exists_sent_of_step mapper step
      rcases later : p.steps a rest g₁ with ⟨rest', g₂, exit₂⟩
      simp only [steps, step, later] at h
      cases h
      have name : g₁.context.pipelineName = g.context.pipelineName := first.pipelineName
      obtain ⟨handed, calls, sent⟩ := ih others later
      rw [name] at calls
      rw [calls_cons_of_step step]
      exact ⟨letters :: handed, .cons call calls, first.trans sent⟩
    · obtain ⟨letters, call, first⟩ := exists_sent_of_step mapper step
      simp only [steps, step] at h
      cases h
      have last : p.calls a ((plugin, proc) :: rest) g = [p.call plugin proc g] := by
        simp only [calls, step]
      rw [last]
      exact ⟨[letters], .cons call .nil, by simpa using first⟩

theorem result_of_steps (h : p.steps a procs g = (procs', g', exit)) :
    g'.result.failureRecords = g.result.failureRecords ∧ g'.result.failedItems = g.result.failedItems ∧
      g'.result.errors = g.result.errors := by
  induction procs generalizing g procs' with
  | nil =>
    cases h
    exact ⟨rfl, rfl, rfl⟩
  | cons head rest ih =>
    obtain ⟨plugin, proc⟩ := head
    rcases step : p.step a plugin proc g with ⟨proc₁, g₁, _ | exit₁⟩
    · have first := closes_of_step step
      rcases later : p.steps a rest g₁ with ⟨rest', g₂, exit₂⟩
      simp only [steps, step, later] at h
      cases h
      obtain ⟨records, items, errors⟩ := ih later
      exact ⟨records.trans first.failureRecords, items.trans first.failedItems,
        errors.trans first.errors⟩
    · have first := closes_of_step step
      simp only [steps, step] at h
      cases h
      exact ⟨first.failureRecords, first.failedItems, first.errors⟩

end Steps

theorem Runs.errors_eq {a : Ambient} {g g' : Progress} {cs : List Call} (h : Runs a g cs g') :
    g'.context.errors = g.context.errors ++ cs.flatMap fun c => (c.context a).errors := by
  induction h with
  | nil g => simp
  | cons first _ ih =>
    rw [ih, first.context, List.flatMap_cons, ← List.append_assoc, Context.merge]

section Returns

theorem exists_length_of_core {i : Identity} {ts : Targets} {a : Ambient} {data out : Value}
    {s s' : Scene} (h : (FieldMapping.core i ts a data).run.run s = (.ok out, s')) :
    ∃ n, out.length = .ok n := by
  unfold FieldMapping.core at h
  split at h
  · cases h
  · rename_i records batch
    rw [Work.run_bind, Work.run_note] at h
    rcases converted : (FieldMapping.convertAll i a ts records).run.run
      (s.note (FieldMapping.startEntry i ts records)) with ⟨fault | kept, mid⟩
    · simp only [Work.run_bind, converted] at h
      cases h
    · simp only [Work.run_bind, converted, Work.run_change, Work.run_pure] at h
      cases h
      unfold FieldMapping.sameForm
      split
      · exact ⟨_, rfl⟩
      · exact ⟨_, rfl⟩

theorem mem_of_mem_calls {p : Pipeline} {a : Ambient} {procs : List (Value × Processor)} {g : Progress}
    {c : Call} (h : c ∈ p.calls a procs g) : (c.plugin, c.processor) ∈ procs := by
  induction procs generalizing g with
  | nil => simp [calls] at h
  | cons head rest ih =>
    obtain ⟨plugin, proc⟩ := head
    rw [calls] at h
    rcases List.mem_cons.mp h with rfl | later
    · exact List.mem_cons_self
    · split at later
      · cases later
      · exact List.mem_cons_of_mem _ (ih later)

theorem exists_run_of_mappers {p : Pipeline} {a : Ambient} {data : Value} {n : Nat} {t : Trail}
    (mode : p.mode = .continue) (mappers : ∀ e ∈ p.processors, ∃ ts, IsMapper e.2 ts)
    (written : ∀ e ∈ p.processors, ∃ id, e.1.plain = .ok id) (sized : data.length = .ok n) :
    ∃ r p' t', p.run a (some data) t = (.ok r, p', t') := by
  have named : ∀ c ∈ p.callsOn a data n t, ∀ fault, c.output a = .error fault →
      ∃ id, c.plugin.plain = .ok id := fun c hc _ _ => written _ (mem_of_mem_calls hc)
  have outputs : ∀ c ∈ p.callsOn a data n t, ∀ out, c.outcome a = .ok out →
      ∃ m, out.length = .ok m := by
    intro c hc out returned
    obtain ⟨ts, mapper⟩ := mappers _ (mem_of_mem_calls hc)
    obtain ⟨before, mid, -, run⟩ := Processor.exists_core_of_process returned
    rw [mapper.core] at run
    exact exists_length_of_core run
  obtain ⟨procs', g, steps⟩ := exists_steps_of_named mode named
  obtain ⟨m, sized'⟩ := ((runs_of_steps steps).1.fed_of_sized outputs ⟨n, sized⟩).2
  obtain ⟨r, p', t', run, -⟩ := exists_run_of_steps sized steps sized'
  exact ⟨r, p', t', run⟩

end Returns

section Run

variable {p p' : Pipeline} {a : Ambient} {data : Value} {n : Nat} {t t' : Trail}

theorem trail_of_run {outcome : Except PipelineError PipelineResult} (sized : data.length = .ok n)
    (h : p.run a (some data) t = (outcome, p', t')) :
    t'.offered = (p.steps a p.processors (p.start a data n t)).2.1.trail.offered ∧
      t'.deadLetters = (p.steps a p.processors (p.start a data n t)).2.1.trail.deadLetters := by
  have ended := ended_of_run sized h
  refine ⟨ended.offered, ?_⟩
  have journal (severity : Severity) (message : String) (t : Trail) :=
    Trail.deadLetters_note (p.quiet_logger severity message) t
  have failedItems (r : PipelineResult) : ∀ e ∈ p.failedItemsEntries r, e.Quiet := by
    unfold failedItemsEntries
    split
    · exact List.forall_mem_singleton.mpr (p.quiet_logger _ _)
    · simp
  cases ended with
  | returned steps sized' =>
    rw [steps]
    exact (Trail.deadLetters_noteAll (failedItems _) _).trans (journal _ _ _)
  | stopped steps =>
    rw [steps]
    exact journal _ _ _
  | unsized steps unsized =>
    rw [steps]
    exact journal _ _ _

theorem exists_sent_of_run {outcome : Except PipelineError PipelineResult}
    (mappers : ∀ e ∈ p.processors, ∃ ts, IsMapper e.2 ts) (sized : data.length = .ok n)
    (h : p.run a (some data) t = (outcome, p', t')) :
    ∃ handed, List.Forall₂ (fun c letters => c.Handed a (.text p.name) letters)
        (p.callsOn a data n t) handed ∧
      Sent a (p.start a data n t).scene
        (p.steps a p.processors (p.start a data n t)).2.1.scene handed.flatten ∧
      t'.deadLetters = t.deadLetters ++ handed.flatten.map (Work.sentEntry a) ∧
      t'.offered = t.offered ++
        if a.settings.deadLetterEnabled && p.sink.isSome then handed.flatten else [] := by
  obtain ⟨offered, journal⟩ := trail_of_run sized h
  rcases steps : p.steps a p.processors (p.start a data n t) with ⟨procs', g, exit⟩
  obtain ⟨handed, calls, sent⟩ := exists_sent_of_steps mappers steps
  rw [steps] at offered journal
  have before : (p.start a data n t).trail.deadLetters = t.deadLetters :=
    Trail.deadLetters_note (p.quiet_logger _ _) t
  refine ⟨handed, calls, sent, ?_, ?_⟩
  · rw [journal, ← before]
    exact sent.journal
  · rw [offered]
    exact sent.offered

/-- What a run that returns tells of the letters that its calls handed over. -/
structure Accounts (p : Pipeline) (a : Ambient) (t t' : Trail) (calls : List Call)
    (handed : List (List FailureRecord)) (r : PipelineResult) : Prop where
  letters : List.Forall₂ (fun c letters => c.Handed a (.text p.name) letters) calls handed
  journal : t'.deadLetters = t.deadLetters ++ handed.flatten.map (Work.sentEntry a)
  failedItems : r.failedItems = handed.flatten.length
  failureRecords : r.failureRecords = if a.settings.deadLetterEnabled then handed.flatten else []
  offered : t'.offered = t.offered ++ if p.sink.isSome then r.failureRecords else []
  errors : r.errors = calls.flatMap fun c => (c.context a).errors
  processorResults : r.processorResults = calls.map fun c => (c.plugin, [c.report a])

/-- A run of mappers that returns accounts for every letter, in whatever call and however that call
ended: the count, the failure records, the sink and the journal agree, and each plugin id has one
report. -/
theorem run_accounts {r : PipelineResult} (mappers : ∀ e ∈ p.processors, ∃ ts, IsMapper e.2 ts)
    (apart : KeysApart p.processors) (returned : p.run a (some data) t = (.ok r, p', t')) :
    ∃ n handed, data.length = .ok n ∧
      (p.callsOn a data n t).map (fun c => (c.plugin, c.processor)) = p.processors ∧
      Accounts p a t t' (p.callsOn a data n t) handed r := by
  obtain ⟨n, sized⟩ := exists_length_of_run returned
  obtain ⟨procs', g, steps, result⟩ := exists_steps_of_run sized returned
  obtain ⟨runs, called⟩ := runs_of_steps steps
  obtain ⟨handed, calls, sent, journal, offered⟩ := exists_sent_of_run mappers sized returned
  rw [steps] at sent
  have failed : g.context.metadata.recordsFailed = 0 + handed.flatten.length := sent.recordsFailed
  have kept : g.context.failureRecords =
      [] ++ if a.settings.deadLetterEnabled then handed.flatten else [] := sent.failureRecords
  have letters : r.failureRecords =
      if a.settings.deadLetterEnabled then handed.flatten else [] := by
    rw [result.failureRecords, kept, List.nil_append]
  have keys : KeysApart ((p.callsOn a data n t).map fun c => (c.plugin, [c.report a])) := by
    have called' : (p.callsOn a data n t).map (fun c => (c.plugin, c.processor)) = p.processors :=
      called
    rw [← called', Value.keysApart_iff_map_fst, List.map_map] at apart
    rw [Value.keysApart_iff_map_fst, List.map_map]
    exact apart
  refine ⟨n, handed, sized, called, calls, journal, ?_, letters, ?_, ?_, ?_⟩
  · rw [result.failedItems, failed, Nat.zero_add]
  · rw [offered, letters]
    cases a.settings.deadLetterEnabled <;> cases p.sink <;> simp
  · rw [result.errors, runs.errors_eq, (result_of_steps steps).2.2]
    rfl
  · rw [result.processorResults]
    exact runs.processorResults_eq keys

/-- A sink that takes one letter makes the second and the third mapper fail, each on a letter that
it has sent. -/
theorem run_accounts_full_sink :
    let mapper (field : String) :=
      FieldMapping.processor (FieldMapping.identity (.text field) .null) [(.text field, .integer)]
    let p : Pipeline :=
      { name := "telemetry", id := "0", activator := { enforce := true }
        sink := some (.failAfter 1 "full")
        processors := [(.text "a", mapper "a"), (.text "b", mapper "b"), (.text "c", mapper "c")] }
    let a : Ambient := { now := .epoch, settings := .unset }
    let batch := Value.list [.record [(.text "a", .null)], .record [(.text "b", .null)],
      .record [(.text "c", .null)]]
    ∃ r p' t' n handed, p.run a (some batch) {} = (.ok r, p', t') ∧ batch.length = .ok n ∧
      (p.callsOn a batch n {}).map (fun c => (c.plugin, c.processor)) = p.processors ∧
      Accounts p a {} t' (p.callsOn a batch n {}) handed r ∧ handed.flatten.length = 3 ∧ t'.offered.length = 3 := by
  intro mapper p a batch
  have mappers : ∀ e ∈ p.processors, ∃ ts, IsMapper e.2 ts := by
    simp only [p, List.forall_mem_cons]
    exact ⟨⟨_, rfl, rfl, rfl⟩, ⟨_, rfl, rfl, rfl⟩, ⟨_, rfl, rfl, rfl⟩, by simp⟩
  have written : ∀ e ∈ p.processors, ∃ id, e.1.plain = .ok id := by
    simp only [p, List.forall_mem_cons]
    exact ⟨⟨_, rfl⟩, ⟨_, rfl⟩, ⟨_, rfl⟩, by simp⟩
  obtain ⟨r, p', t', call⟩ := @exists_run_of_mappers p a batch 3 {} rfl mappers written rfl
  have three : (p.run a (some batch) {}).1.toOption.map (·.failedItems) = some 3 := by decide +kernel
  have offered : (p.run a (some batch) {}).2.2.offered.length = 3 := by decide +kernel
  rw [call] at three offered
  obtain ⟨n, handed, sized, called, accounts⟩ := run_accounts mappers (by decide) call
  refine ⟨r, p', t', n, handed, call, sized, called, accounts, ?_, offered⟩
  have same := accounts.failedItems.symm.trans (Option.some.inj three)
  omega

/-- A run that the failure of a processor ends leaves a result that tells of no letter, so it keeps
what was handed over until then only if that is nothing. -/
theorem run_forgets_letters {error : PipelineError}
    (mappers : ∀ e ∈ p.processors, ∃ ts, IsMapper e.2 ts)
    (routed : a.settings.deadLetterEnabled = true)
    (raised : p.run a (some data) t = (.error error, p', t')) (aborted : error.report = none) :
    ∃ n handed r, data.length = .ok n ∧
      List.Forall₂ (fun c letters => c.Handed a (.text p.name) letters) (p.callsOn a data n t) handed ∧
      t'.deadLetters = t.deadLetters ++ handed.flatten.map Work.keptEntry ∧
      t'.offered = t.offered ++ (if p.sink.isSome then handed.flatten else []) ∧
      p'.result = some r ∧ r.status = "failed" ∧ r.failureRecords = [] ∧ r.failedItems = 0 ∧
      (r.failureRecords = handed.flatten ∧ r.failedItems = handed.flatten.length ↔
        handed.flatten = []) := by
  obtain ⟨n, sized⟩ : ∃ n, data.length = .ok n := by
    cases sized : data.length with
    | ok n => exact ⟨n, rfl⟩
    | error fault =>
      simp only [run, execute, sized] at raised
      cases raised
      cases aborted
  obtain ⟨handed, calls, -, journal, offered⟩ := exists_sent_of_run mappers sized raised
  obtain ⟨r, left, status, records', items'⟩ : ∃ r, p'.result = some r ∧ r.status = "failed" ∧
      r.failureRecords = [] ∧ r.failedItems = 0 := by
    cases ended_of_run sized raised with
    | stopped steps =>
      obtain ⟨records, items, -⟩ := result_of_steps steps
      exact ⟨_, rfl, rfl, records, items⟩
    | unsized steps unsized =>
      cases aborted
  refine ⟨n, handed, r, sized, calls, ?_, ?_, left, status, records', items', ?_⟩
  · have entry : Work.sentEntry a = Work.keptEntry := funext fun r => if_pos routed
    rw [journal, entry]
  · simpa [routed] using offered
  · rw [records', items']
    constructor
    · rintro ⟨same, -⟩
      exact same.symm
    · intro nothing
      simp [nothing]

theorem run_forgets_letters_full_sink :
    let mapper := FieldMapping.processor (FieldMapping.identity (.text "mapper") .null)
      [(.text "speed", .integer)]
    let p : Pipeline :=
      { name := "telemetry", id := "0", mode := .strict, activator := { enforce := true }
        sink := some (.failAfter 0 "full")
        processors := [(.text "mapper", mapper)] }
    let batch := Value.list [.record [(.text "speed", .text "x")]]
    ∃ error r p' t' handed,
      p.run { now := .epoch, settings := .unset } (some batch) {} = (.error error, p', t') ∧
      error.report = none ∧ p'.result = some r ∧ t'.offered = handed ∧ handed ≠ [] ∧
      ¬ (r.failureRecords = handed ∧ r.failedItems = handed.length) := by
  have mappers : ∀ e ∈ [(Value.text "mapper", FieldMapping.processor
      (FieldMapping.identity (.text "mapper") .null) [(.text "speed", .integer)])],
      ∃ ts, IsMapper e.2 ts := List.forall_mem_singleton.mpr ⟨_, rfl, rfl, rfl⟩
  obtain ⟨⟨error, p', t'⟩, call, aborted, offered⟩ : ∃ left : PipelineError × Pipeline × Trail,
      Pipeline.run
        { name := "telemetry", id := "0", mode := .strict, activator := { enforce := true }
          sink := some (.failAfter 0 "full")
          processors := [(.text "mapper", FieldMapping.processor
            (FieldMapping.identity (.text "mapper") .null) [(.text "speed", .integer)])] }
        { now := .epoch, settings := .unset }
        (some (.list [.record [(.text "speed", .text "x")]])) {} =
      (.error left.1, left.2.1, left.2.2) ∧ left.1.report = none ∧ left.2.2.offered.length = 1 :=
    ⟨(_, _, _), Prod.ext rfl (Prod.ext rfl rfl), rfl, rfl⟩
  obtain ⟨n, handed, r, -, -, -, all, result, -, -, -, kept⟩ :=
    run_forgets_letters mappers rfl call aborted
  have letters : t'.offered = handed.flatten := all
  have some : handed.flatten ≠ [] := by
    intro none
    rw [letters, none] at offered
    cases offered
  exact ⟨error, r, p', t', handed.flatten, call, aborted, result, letters, some,
    fun same => some (kept.mp same)⟩

/-- The result that a strict run leaves does not tell of the letter that the sink was offered. -/
theorem run_forgets_offered_letter :
    let mapper := FieldMapping.processor (FieldMapping.identity (.text "mapper") .null)
      [(.text "speed", .integer)]
    let p : Pipeline :=
      { name := "telemetry", id := "0", mode := .strict, activator := { enforce := true }
        sink := some (.failAfter 0 "full")
        processors := [(.text "mapper", mapper)] }
    let left := p.run { now := .epoch, settings := .unset }
      (some (.list [.record [(.text "speed", .text "x")]])) {}
    (∃ error, left.1 = .error error ∧ error.report.isNone) ∧ left.2.2.offered.length = 1 ∧
      ∃ r, left.2.1.result = some r ∧ r.status = "failed" ∧ r.failureRecords = [] ∧ r.failedItems = 0 :=
  ⟨⟨_, rfl, rfl⟩, rfl, _, rfl, rfl, rfl, rfl⟩

end Run

end Pipeline

end RecordPipeline
