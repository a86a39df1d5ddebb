import Mathlib.Data.List.Infix
import RecordPipeline.Proofs.Pipeline.Completion
import RecordPipeline.Proofs.Processor.Noticed
set_option autoImplicit false

namespace RecordPipeline

namespace Pipeline

open FieldMapping (IsMapper emptyNotice)

namespace Call

def warnings (c : Call) (a : Ambient) : List String := (c.context a).warnings

/-- What a run says of a call that did not go through, if it can write out the plugin id. -/
def failureWarning? (c : Call) (a : Ambient) : Option String :=
  match c.output a, c.plugin.plain with
  | .error fault, .ok id => some (id ++ " failed: " ++ fault.shown)
  | _, _ => none

variable {c : Call} {a : Ambient}

theorem failureWarning?_of_ok {out : Value × Nat} (taken : c.output a = .ok out) :
    c.failureWarning? a = none := by
  simp only [failureWarning?, taken]

theorem failureWarning?_of_error {fault : Fault} {id : String} (refused : c.output a = .error fault)
    (written : c.plugin.plain = .ok id) :
    c.failureWarning? a = some (id ++ " failed: " ++ fault.shown) := by
  simp only [failureWarning?, refused, written]

theorem exists_of_failureWarning?_eq_some {m : String} (h : c.failureWarning? a = some m) :
    ∃ id message, m = id ++ " failed: " ++ message := by
  unfold failureWarning? at h
  split at h
  · cases h
    exact ⟨_, _, rfl⟩
  · cases h

end Call

section Steps

variable {p p' : Pipeline} {a : Ambient} {plugin : Value} {proc proc' : Processor} {g g' : Progress}

theorem warnings_of_step (h : p.step a plugin proc g = (proc', g', none)) :
    g'.result.warnings =
      g.result.warnings ++ ((p.call plugin proc g).failureWarning? a).toList := by
  cases taken : (p.call plugin proc g).output a with
  | ok output =>
    obtain ⟨out, n⟩ := output
    rw [step_of_output_ok taken] at h
    cases h
    rw [Call.failureWarning?_of_ok taken]
    exact (List.append_nil _).symm
  | error fault =>
    cases written : plugin.plain with
    | error unwritten =>
      have left := step_of_unwritten taken written
      rw [h] at left
      cases left
    | ok id =>
      cases mode : p.mode with
      | strict =>
        rw [step_of_output_error taken] at h
        simp only [onFailure, failureOf_of_told written (Call.isTold_of_output taken), mode] at h
        cases h
      | «continue» =>
        obtain ⟨g₁, step, -, -, result⟩ := step_of_skipped mode taken written
        rw [step] at h
        cases h
        rw [result, Call.failureWarning?_of_error taken written]
        rfl

theorem warnings_of_steps {procs procs' : List (Value × Processor)}
    (h : p.steps a procs g = (procs', g', none)) :
    g'.result.warnings =
      g.result.warnings ++ (p.calls a procs g).filterMap fun c => c.failureWarning? a := by
  induction procs generalizing g procs' with
  | nil =>
    cases h
    exact (List.append_nil _).symm
  | cons head rest ih =>
    obtain ⟨plugin, proc⟩ := head
    rcases step : p.step a plugin proc g with ⟨proc₁, g₁, _ | exit⟩
    · rcases later : p.steps a rest g₁ with ⟨rest', g₂, exit⟩
      simp only [steps, step, later] at h
      cases h
      rw [calls_cons_of_step step, ih later, warnings_of_step step, List.append_assoc]
      cases warned : (p.call plugin proc g).failureWarning? a <;> simp [warned]
    · simp only [steps, step] at h
      cases h

variable {data : Value} {n : Nat} {t t' : Trail} {r : PipelineResult}

theorem warnings_of_run {procs' : List (Value × Processor)} (sized : data.length = .ok n)
    (steps : p.steps a p.processors (p.start a data n t) = (procs', g, none))
    (h : p.run a (some data) t = (.ok r, p', t')) : r.warnings = g.result.warnings := by
  cases ended_of_run sized h with
  | returned steps' _ =>
    rw [steps] at steps'
    cases steps'
    rfl

end Steps

theorem emptyNotice_ne (id message : String) : emptyNotice ≠ id ++ " failed: " ++ message := by
  intro same
  have inside : " failed: ".toList <:+: emptyNotice.toList :=
    ⟨id.toList, message.toList, by rw [same, String.toList_append, String.toList_append]⟩
  exact absurd inside (by decide)

theorem sublist_iff_of_apart {added kept : List String} (apart : ∀ m ∈ added, m ∉ kept) :
    added.Sublist kept ↔ added = [] := by
  constructor
  · intro inside
    exact List.eq_nil_iff_forall_not_mem.mpr fun m hm => apart m hm (inside.subset hm)
  · rintro rfl
    exact List.nil_sublist kept

section Runs

variable {a : Ambient} {g g' : Progress} {cs : List Call}

theorem Runs.isSome_failureWarning? (h : Runs a g cs g') :
    ∀ c ∈ cs, (c.failureWarning? a).isSome = !(c.output a).isOk := by
  intro c hc
  cases taken : c.output a with
  | ok out =>
    rw [Call.failureWarning?_of_ok taken]
    rfl
  | error fault =>
    obtain ⟨id, written⟩ := h.named c hc fault taken
    rw [Call.failureWarning?_of_error taken written]
    rfl

theorem Runs.warnings_of_mappers (h : Runs a g cs g')
    (mappers : ∀ c ∈ cs, ∃ ts, IsMapper c.processor ts) :
    ∀ c ∈ cs, c.warnings a = if c.data.batchSize? = some 0 then [emptyNotice] else [] := by
  induction h with
  | nil g => simp
  | cons first _ ih =>
    obtain ⟨⟨ts, mapper⟩, others⟩ := List.forall_mem_cons.mp mappers
    refine List.forall_mem_cons.mpr ⟨?_, ih others⟩
    rw [Call.warnings, Call.context, Call.left, mapper.warnings_process, first.child]
    rfl

theorem Runs.apart_of_mappers (h : Runs a g cs g')
    (mappers : ∀ c ∈ cs, ∃ ts, IsMapper c.processor ts) :
    ∀ c ∈ cs, ∀ m ∈ c.warnings a, m ∉ cs.filterMap fun c => c.failureWarning? a := by
  intro c hc m hm failure
  obtain ⟨c', -, failed⟩ := List.mem_filterMap.mp failure
  obtain ⟨id, message, rfl⟩ := Call.exists_of_failureWarning?_eq_some failed
  rw [h.warnings_of_mappers mappers c hc] at hm
  split at hm
  · exact emptyNotice_ne id message (List.mem_singleton.mp hm).symm
  · cases hm

end Runs

/-- A run that returns warns of the calls that did not go through and of nothing else. Warnings that its
calls left in their contexts are kept only if there are none: with mappers, if no batch on the way is
empty. -/
theorem run_keeps_warnings_iff {p p' : Pipeline} {a : Ambient} {data : Value} {n : Nat} {t t' : Trail}
    {r : PipelineResult} (sized : data.length = .ok n)
    (returned : p.run a (some data) t = (.ok r, p', t')) :
    (p.callsOn a data n t).map (fun c => (c.plugin, c.processor)) = p.processors ∧
      r.warnings = (p.callsOn a data n t).filterMap (fun c => c.failureWarning? a) ∧
      r.summary.lookup "warnings_count" =
        some (.int ((p.callsOn a data n t).countP fun c => !(c.output a).isOk)) ∧
      ((∀ c ∈ p.callsOn a data n t, ∀ m ∈ c.warnings a, m ∉ r.warnings) →
        (((p.callsOn a data n t).flatMap fun c => c.warnings a).Sublist r.warnings ↔
          ∀ c ∈ p.callsOn a data n t, c.warnings a = [])) ∧
      ((∀ e ∈ p.processors, ∃ ts, IsMapper e.2 ts) →
        (((p.callsOn a data n t).flatMap fun c => c.warnings a).Sublist r.warnings ↔
          ∀ c ∈ p.callsOn a data n t, c.data.batchSize? ≠ some 0)) := by
  obtain ⟨procs', g, steps, -⟩ := exists_steps_of_run sized returned
  obtain ⟨runs, called⟩ := runs_of_steps steps
  have warned : r.warnings = (p.callsOn a data n t).filterMap fun c => c.failureWarning? a := by
    rw [warnings_of_run sized steps returned, warnings_of_steps steps]
    rfl
  have count : r.warnings.length = (p.callsOn a data n t).countP fun c => !(c.output a).isOk := by
    rw [warned, List.length_filterMap_eq_countP]
    exact List.countP_congr fun c hc => by rw [runs.isSome_failureWarning? c hc]
  have apart_iff (apart : ∀ c ∈ p.callsOn a data n t, ∀ m ∈ c.warnings a, m ∉ r.warnings) :
      ((p.callsOn a data n t).flatMap fun c => c.warnings a).Sublist r.warnings ↔
        ∀ c ∈ p.callsOn a data n t, c.warnings a = [] := by
    rw [sublist_iff_of_apart, List.flatMap_eq_nil_iff]
    intro m hm
    obtain ⟨c, hc, hm⟩ := List.mem_flatMap.mp hm
    exact apart c hc m hm
  refine ⟨called, warned, ?_, apart_iff, fun mappers => ?_⟩
  · rw [← count]
    rfl
  · have mappers' : ∀ c ∈ p.callsOn a data n t, ∃ ts, IsMapper c.processor ts := fun c hc =>
      mappers (c.plugin, c.processor) (called ▸ List.mem_map_of_mem hc)
    rw [apart_iff (warned ▸ runs.apart_of_mappers mappers')]
    refine forall₂_congr fun c hc => ?_
    rw [runs.warnings_of_mappers mappers' c hc]
    split <;> simp_all

theorem run_keeps_warnings_of_record :
    let i := FieldMapping.identity (.text "mapper") .null
    let p : Pipeline :=
      { name := "telemetry", id := "0", activator := { enforce := true }
        processors := [(.text "mapper", FieldMapping.processor i [(.text "n", .integer)])] }
    let a : Ambient := { now := .epoch, settings := .unset }
    let batch := Value.list [.record [(.text "n", .text "1")]]
    ∃ r p' t', p.run a (some batch) {} = (.ok r, p', t') ∧
      ((p.callsOn a batch 1 {}).flatMap fun c => c.warnings a).Sublist r.warnings := by
  intro i p a batch
  obtain ⟨r, p', t', returned⟩ : ∃ r p' t', p.run a (some batch) {} = (.ok r, p', t') :=
    ⟨_, _, _, rfl⟩
  obtain ⟨-, -, -, -, kept_iff⟩ := run_keeps_warnings_iff rfl returned
  have mappers : ∀ e ∈ p.processors, ∃ ts, IsMapper e.2 ts := by
    intro e he
    obtain rfl := List.mem_singleton.mp he
    exact ⟨_, FieldMapping.isMapper_processor i _ {}⟩
  refine ⟨r, p', t', returned, (kept_iff mappers).mpr fun c hc => ?_⟩
  obtain rfl := List.mem_singleton.mp hc
  decide

/-- An empty batch is warned of, and the run that returns does not say so. -/
theorem run_drops_notice_of_empty_batch :
    let i := FieldMapping.identity (.text "mapper") .null
    let p : Pipeline :=
      { name := "telemetry", id := "0", activator := { enforce := true }
        processors := [(.text "mapper", FieldMapping.processor i [(.text "n", .integer)])] }
    let a : Ambient := { now := .epoch, settings := .unset }
    ∃ r p' t', p.run a (some (.list [])) {} = (.ok r, p', t') ∧
      ((p.callsOn a (.list []) 0 {}).flatMap fun c => c.warnings a) =
        ["input validation - data: Record batch is empty"] ∧
      r.warnings = [] := ⟨_, _, _, rfl, rfl, rfl⟩

end Pipeline

end RecordPipeline
