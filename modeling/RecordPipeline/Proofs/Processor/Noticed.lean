import RecordPipeline.Proofs.FieldMapping.Process
import RecordPipeline.Proofs.Outcome
set_option autoImplicit false

namespace RecordPipeline

namespace Work

/-- Work that ends in one and the same way in every scene, and adds to what a view of the scene
lists. -/
def Adds {α : Type} (view : Scene → List String) (x : Work α) (outcome : Except Fault α)
    (added : List String) : Prop :=
  ∀ s, ∃ s', x.run.run s = (outcome, s') ∧ view s' = view s ++ added

namespace Adds

variable {α β : Type} {view : Scene → List String} {x : Work α} {f : α → Work β} {v : α} {added : List String}

theorem of_passes {outcome : Except Fault α} (h : Passes view x outcome) : Adds view x outcome [] := by
  intro s
  obtain ⟨s', run, same⟩ := h s
  exact ⟨s', run, by rw [List.append_nil]; exact same⟩

theorem after {outcome : Except Fault β} (first : Passes view x (.ok v)) (h : Adds view (f v) outcome added) :
    Adds view (x >>= f) outcome added := by
  intro s
  obtain ⟨s', run, same⟩ := first s
  obtain ⟨s'', run', more⟩ := h s'
  refine ⟨s'', ?_, more.trans (congrArg (· ++ added) same)⟩
  rw [run_bind, run]
  exact run'

theorem before {outcome : Except Fault β} (h : Adds view x (.ok v) added) (last : Passes view (f v) outcome) :
    Adds view (x >>= f) outcome added := by
  intro s
  obtain ⟨s', run, more⟩ := h s
  obtain ⟨s'', run', same⟩ := last s'
  refine ⟨s'', ?_, same.trans more⟩
  rw [run_bind, run]
  exact run'

theorem bind_error {fault : Fault} (h : Adds view x (.error fault) added) :
    Adds view (x >>= f) (.error fault) added := by
  intro s
  obtain ⟨s', run, more⟩ := h s
  refine ⟨s', ?_, more⟩
  rw [run_bind, run]

theorem forM {ι : Type} {g : ι → Work Unit} {text : ι → String}
    (each : ∀ i, Adds view (g i) (.ok ()) [text i]) (xs : List ι) :
    Adds view (xs.forM g) (.ok ()) (xs.map text) := by
  induction xs with
  | nil => exact of_passes (.pure ())
  | cons i xs ih =>
    intro s
    obtain ⟨s', run, one⟩ := each i s
    obtain ⟨s'', run', more⟩ := ih s'
    refine ⟨s'', ?_, ?_⟩
    · show (g i >>= fun _ => xs.forM g).run.run s = _
      rw [run_bind, run]
      exact run'
    · rw [more, one, List.map_cons, List.append_assoc]
      rfl

end Adds

end Work

namespace Contract

theorem warnings_schema (c : Contract) (data : Value) : (c.schema data).warnings = [] := by
  unfold schema
  split
  · cases data <;> rfl
  · unfold outputSchema
    split <;> rfl

theorem eq_of_mem_warnings_content {c : Contract} {data : Value} {found : Findings} {i : Issue}
    (h : c.content data = .ok found) (hi : i ∈ found.warnings) : c.kind = .input ∧ i = emptyBatch := by
  unfold content at h
  split at h
  · rename_i kind
    obtain ⟨n, -, made⟩ := exists_of_bind_eq_ok h
    cases made
    by_cases none : n = 0
    · simp only [none, if_true, List.mem_singleton] at hi
      exact ⟨kind, hi⟩
    · simp [none] at hi
  · unfold outputContent at h
    split at h
    all_goals
      obtain ⟨errors, -, made⟩ := exists_of_bind_eq_ok h
      cases made
      cases hi

theorem eq_of_mem_warnings {c : Contract} {data : Value} {v : Verdict} {i : Issue}
    (h : c.judge data = .ok v) (hi : i ∈ v.warnings) : c.kind = .input ∧ i = emptyBatch := by
  simp only [judge] at h
  split at h
  · obtain ⟨found, second, made⟩ := exists_of_bind_eq_ok h
    cases made
    simp only [warnings_schema, List.nil_append] at hi
    exact eq_of_mem_warnings_content second hi
  · cases h
    simp only [warnings_schema, List.nil_append] at hi
    cases hi

end Contract

namespace Processor

open Work (Passes Adds)

def said (part : Verdict → List Issue) (side : Side) (check : Option (Check Fault)) (data : Value) : List String :=
  match check with
  | none => []
  | some c =>
    match (c.validate data).2 with
    | .error _ => []
    | .ok v => (part v).map (issueText side)

abbrev noticed := said Verdict.warnings

abbrev reported := said Verdict.errors

theorem said_inWork (part : Verdict → List Issue) (side : Side) (c : Contract) (data : Value) :
    said part side (some c.inWork) data =
      match c.judge data with
      | .error _ => []
      | .ok v => (part v).map (issueText side) := by
  have judged : c.inWork.judge data = (c.judge data).mapError .value := rfl
  simp only [said, Check.snd_validate, judged]
  cases c.judge data <;> rfl

theorem eq_of_mem_noticed {side : Side} {c : Contract} {data : Value} {m : String}
    (h : m ∈ noticed side (some c.inWork) data) : c.kind = .input ∧ m = issueText side Contract.emptyBatch := by
  rw [noticed, said_inWork] at h
  split at h
  · cases h
  · rename_i v found
    obtain ⟨i, hi, rfl⟩ := List.mem_map.mp h
    obtain ⟨kind, rfl⟩ := Contract.eq_of_mem_warnings found hi
    exact ⟨kind, rfl⟩

/-- A view that lists the messages for the issues in one part of every verdict, and shows nothing
else of what stands around a core. -/
structure Lists (view : Scene → List String) (part : Verdict → List Issue) : Prop where
  note (s : Scene) (e : Entry) : view (s.note e) = view s
  recordsIn (s : Scene) (n : Nat) : view { s with context := { s.context with
    metadata := { s.context.metadata with recordsIn := some n } } } = view s
  recordsProcessed (s : Scene) (n : Nat) : view { s with context := { s.context with
    metadata := { s.context.metadata with recordsProcessed := some n } } } = view s
  report (side : Side) (v : Verdict) : Adds view (report side v) (.ok ()) ((part v).map (issueText side))

theorem lists_warnings : Lists (fun s => s.context.warnings) Verdict.warnings where
  note _ _ := rfl
  recordsIn _ _ := rfl
  recordsProcessed _ _ := rfl
  report side v := by
    have errors : Passes (fun s => s.context.warnings)
        (v.errors.forM fun i => Work.addError (issueText side i)) (.ok ()) :=
      .forM fun i _ s => ⟨_, Work.run_addError _ s, rfl⟩
    have warnings : Adds (fun s => s.context.warnings) (v.warnings.forM fun i => Work.addWarning (issueText side i))
        (.ok ()) (v.warnings.map (issueText side)) :=
        .forM (fun i s => ⟨_, Work.run_addWarning _ s, rfl⟩) v.warnings
    exact .after errors (.before warnings (.change fun _ => rfl))

theorem lists_errors : Lists (fun s => s.context.errors) Verdict.errors where
  note _ _ := rfl
  recordsIn _ _ := rfl
  recordsProcessed _ _ := rfl
  report side v := by
    have errors : Adds (fun s => s.context.errors) (v.errors.forM fun i => Work.addError (issueText side i))
        (.ok ()) (v.errors.map (issueText side)) := .forM (fun i s => ⟨_, Work.run_addError _ s, rfl⟩) v.errors
    have warnings : Passes (fun s => s.context.errors)
        (v.warnings.forM fun i => Work.addWarning (issueText side i)) (.ok ()) :=
      .forM fun i _ s => ⟨_, Work.run_addWarning _ s, rfl⟩
    exact .before errors (.bind warnings (.change fun _ => rfl))

section Stages

variable {view : Scene → List String} {part : Verdict → List Issue}

theorem Lists.note_passes (lists : Lists view part) (e : Entry) : Passes view (Work.note e) (.ok ()) :=
  fun s => ⟨_, Work.run_note e s, lists.note s e⟩

theorem hold_adds (lists : Lists view part) (p : Processor) (side : Side) (check : Option (Check Fault))
    (data : Value) :
    Adds view (p.hold side check data) (p.judgement side check data) (said part side check data) := by
  cases check with
  | none => exact .of_passes (.pure ())
  | some c =>
    simp only [hold, judgement, said]
    rcases c.validate data with ⟨entries, outcome⟩
    refine .after (lists.note_passes _) (.after (.forM fun e _ => lists.note_passes e) ?_)
    cases outcome with
    | error fault => exact .of_passes (.throw _)
    | ok v =>
      refine .before (lists.report side v) ?_
      cases valid : v.isValid with
      | true => simpa [valid] using Passes.pure ()
      | false => simpa [valid] using Passes.throw _

theorem prepare_adds (lists : Lists view part) (p : Processor) (data : Value) :
    Adds view (p.prepare data) (p.judgement .input p.input data) (said part .input p.input data) := by
  have held := hold_adds lists p .input p.input data
  have counted : Passes view (countIn data) (.ok ()) := by
    unfold countIn
    cases data.batchSize? with
    | none => exact .pure ()
    | some n => exact .change fun s => lists.recordsIn s n
  refine .after (lists.note_passes _) ?_
  cases judged : p.judgement .input p.input data with
  | error fault => exact .bind_error (judged ▸ held)
  | ok => exact .before (judged ▸ held) (.bind counted (lists.note_passes _))

theorem release_adds (lists : Lists view part) (p : Processor) (out : Value) :
    Adds view (p.release out) (p.judgement .output p.output out) (said part .output p.output out) := by
  have counted : Passes view (countOut out) (.ok ()) := by
    unfold countOut
    cases out.batchSize? with
    | none => exact .pure ()
    | some n => exact .change fun s => lists.recordsProcessed s n
  exact .after counted (hold_adds lists p .output p.output out)

end Stages

theorem warnings_giveUp (p : Processor) (a : Ambient) (fault : Fault) (s : Scene) :
    (p.giveUp a fault s).2.context.warnings = s.context.warnings :=
  view_giveUp (fun s => s.context.warnings) (fun _ => rfl) fun _ _ => rfl

/-- A call whose core warns of nothing adds the warnings of the input, and those of an output that
is held against its check. -/
theorem warnings_process {p : Processor} {a : Ambient} {data : Value}
    (core : ∀ s, ((p.core a data).run.run s).2.context.warnings = s.context.warnings)
    (output : ∀ out, noticed .output p.output out = []) (s : Scene) :
    (p.process a data s).2.2.context.warnings =
      s.context.warnings ++ noticed .input p.input data := by
  obtain ⟨before, prepared, added⟩ := prepare_adds lists_warnings p data { s with context := p.enter a.now s.context }
  have added : before.context.warnings = s.context.warnings ++ noticed .input p.input data := added
  have released (out : Value) (s : Scene) :
      ((p.release out).run.run s).2.context.warnings = s.context.warnings := by
    obtain ⟨after, run, none⟩ := release_adds lists_warnings p out s
    rw [run]
    simpa only [output, List.append_nil] using none
  have kept := process_related (R := fun s s' => s'.context.warnings = s.context.warnings) (fun h h' => h'.trans h)
    core released (p.warnings_giveUp a) (fun _ => rfl) s
  rw [kept, prepared]
  exact added

end Processor

namespace FieldMapping

open Processor (noticed)

def emptyNotice : String := Processor.issueText .input Contract.emptyBatch

theorem noticed_input (data : Value) : noticed .input (some inputContract.inWork) data =
    if data.batchSize? = some 0 then [emptyNotice] else [] := by
  have refused (v : Value) (other : v.batchSize? = none)
      (schema : inputContract.schema v = { errors := [Contract.wrongContainer v] }) :
      noticed .input (some inputContract.inWork) v = if v.batchSize? = some 0 then [emptyNotice] else [] := by
    have strict : inputContract.level = .strict := rfl
    simp [Processor.said_inWork, Contract.judge, schema, strict, other, bind, Except.bind, pure,
      Except.pure]
  cases data
  case list xs =>
    cases xs with
    | nil => rfl
    | cons x xs =>
      have some : ¬ (Value.list (x :: xs)).batchSize? = some 0 := by simp [Value.batchSize?]
      rw [if_neg some]
      by_cases sound : Contract.checkRecords 0 (x :: xs) = [] <;>
        simp [Processor.said_inWork, Contract.judge, Contract.schema, Contract.content,
          Contract.inputSchema, Contract.inputContent, inputContract, Value.length, sound, bind,
          Except.bind, pure, Except.pure]
  case table columns rows =>
    cases rows with
    | nil => rfl
    | cons row rows => rfl
  all_goals exact refused _ rfl rfl

theorem noticed_output (ts : Targets) (out : Value) :
    noticed .output (some (outputContract ts).inWork) out = [] := by
  refine List.eq_nil_iff_forall_not_mem.mpr fun m hm => ?_
  obtain ⟨input, -⟩ := Processor.eq_of_mem_noticed hm
  cases input

variable {p : Processor} {ts : Targets}

theorem warnings_core (i : Identity) (ts : Targets) (a : Ambient) (data : Value) (s : Scene) :
    ((core i ts a data).run.run s).2.context.warnings = s.context.warnings := by
  cases found : recordsOf data with
  | error fault => simp only [core, found, Work.run_throw]
  | ok records =>
    obtain ⟨mid, run, handsOver⟩ := run_convertAll_noted (a := a) i ts records s
    have same : mid.context.warnings = s.context.warnings := by
      rw [handsOver.context]
      rfl
    simp only [core, found, Work.run_bind, Work.run_note, run]
    cases (settle i a ts s.context.pipelineName (s.route a) records).1 with
    | error fault => exact same
    | ok kept => exact same

/-- A call of a mapper warns of an empty batch and of nothing else. -/
theorem IsMapper.warnings_process (mapper : IsMapper p ts) (a : Ambient) (data : Value) (s : Scene) :
    (p.process a data s).2.2.context.warnings =
      s.context.warnings ++ if data.batchSize? = some 0 then [emptyNotice] else [] := by
  have core : ∀ s, ((p.core a data).run.run s).2.context.warnings = s.context.warnings := by
    rw [mapper.core]
    exact warnings_core p.toIdentity ts a data
  have output : ∀ out, noticed .output p.output out = [] := by
    rw [mapper.output]
    exact noticed_output ts
  rw [Processor.warnings_process core output, mapper.input, noticed_input]

end FieldMapping

end RecordPipeline
