import RecordPipeline.Proofs.FieldMapping.Fusion
import RecordPipeline.Proofs.Pipeline.Repeating
set_option autoImplicit false

namespace RecordPipeline

/-- Records that a plugin gives up on can be handed over: their failure records can be made, and the
sink, when it is offered them, takes them. -/
structure Identity.Delivers (i : Identity) (a : Ambient) (pipelineName : Value) (sink : Option Sink) :
    Prop where
  pluginId : Failure.IsName i.pluginId
  name : Failure.IsName (.text i.name)
  pipeline : Failure.IsName pipelineName
  year : 1000 ≤ a.now.year
  taken : a.settings.deadLetterEnabled = true →
    ∀ s, sink = some s → ∀ earlier r, s.respond earlier r = none

theorem Identity.Delivers.answer_eq_none {i : Identity} {a : Ambient} {s : Scene}
    (h : i.Delivers a s.context.pipelineName s.context.sink) (rs : List FailureRecord)
    (r : FailureRecord) : ((s.route a).after rs).answer r = none := by
  unfold Route.answer
  split
  · rename_i on
    rw [Route.enabled_after] at on
    rw [Route.sink_after]
    cases sink : s.context.sink with
    | none => simp [Scene.route, sink]
    | some sink' => simp [Scene.route, sink, h.taken on sink' sink]
  · rfl

namespace FieldMapping

open Value (IsDict)

theorem exists_settle_of_refused_eq_nil {i : Identity} {a : Ambient} {ts : Targets} {name : Value}
    {route : Route} {records : List Fields} (none : refused ts records = []) :
    ∃ kept, (settle i a ts name route records).1 = .ok kept := by
  induction records with
  | nil => exact ⟨[], rfl⟩
  | cons fs rest ih =>
    cases h : convertRecord ts fs with
    | ok fs' =>
      rw [refused_cons_ok rest h] at none
      obtain ⟨kept, settled⟩ := ih none
      exact ⟨fs' :: kept, by simp only [settle, h, settled, Except.map]⟩
    | error fault =>
      rw [refused_cons_error rest h] at none
      cases none

theorem exists_settle_of_delivers {i : Identity} {a : Ambient} {ts : Targets} {s : Scene}
    {records : List Fields} (hts : IsDict ts) (dicts : ∀ fs ∈ records, IsDict fs)
    (sound : ∀ fs ∈ records, LeakFree ts fs)
    (delivers : refused ts records ≠ [] → i.Delivers a s.context.pipelineName s.context.sink) :
    ∃ handed, settle i a ts s.context.pipelineName (s.route a) records =
        (.ok (converted ts records), handed) ∧ handed.length = (refused ts records).length := by
  obtain ⟨kept, done⟩ :
      ∃ kept, (settle i a ts s.context.pipelineName (s.route a) records).1 = .ok kept := by
    by_cases none : refused ts records = []
    · exact exists_settle_of_refused_eq_nil none
    · have free := delivers none
      exact (exists_settle_eq_ok_iff_of_silent free.pluginId free.name free.pipeline free.year
        fun rs fs _ => free.answer_eq_none rs _).mpr
        fun fs hfs fault => (sound fs hfs).ne_value hts (dicts fs hfs) fault
  rcases settled : settle i a ts s.context.pipelineName (s.route a) records with ⟨outcome, handed⟩
  rw [settled] at done
  cases done
  obtain ⟨rfl, rfl⟩ := eq_of_settle_eq_ok settled
  exact ⟨_, rfl, List.length_map _⟩

end FieldMapping

namespace Pipeline

open FieldMapping (Fields IsBatch IsMapper LeakFree Targets converted refused)
open Value (IsDict putEntry)

section Steps

variable {p : Pipeline} {a : Ambient} {plugin : Value} {proc : Processor} {ts : Targets} {g : Progress}
  {records : List Fields}

/-- Where a run stands after a mapper that could hand over what it refused. -/
structure Mapped (g g' : Progress) (ts : Targets) (records : List Fields) : Prop where
  data : g'.data = .list ((converted ts records).map .record)
  pipelineName : g'.context.pipelineName = g.context.pipelineName
  sink : g'.context.sink = g.context.sink
  recordsFailed : g'.context.metadata.recordsFailed =
    g.context.metadata.recordsFailed + (refused ts records).length

theorem exists_step_of_mapper (mapper : IsMapper proc ts) (hts : IsDict ts)
    (given : g.data = .list (records.map .record)) (dicts : ∀ fs ∈ records, IsDict fs)
    (sound : ∀ fs ∈ records, LeakFree ts fs)
    (delivers : refused ts records ≠ [] →
      proc.Delivers a g.context.pipelineName g.context.sink) :
    ∃ proc' g', p.step a plugin proc g = (proc', g', none) ∧ Mapped g g' ts records := by
  have batch : IsBatch (p.call plugin proc g).data records := by
    rw [call, given]
    exact .list dicts
  obtain ⟨handed, settled, count⟩ := @FieldMapping.exists_settle_of_delivers proc.toIdentity a ts
    (p.call plugin proc g).scene records hts dicts sound delivers
  obtain ⟨s', left, seen⟩ := FieldMapping.process_of_settled mapper hts batch _ settled
  have form : FieldMapping.sameForm (p.call plugin proc g).data (converted ts records) =
      .list ((converted ts records).map .record) := by
    rw [call, given]
    rfl
  rw [form] at left
  have outcome : (p.call plugin proc g).outcome a = .ok _ := congrArg Prod.fst left
  have scene : (p.call plugin proc g).context a = s'.context :=
    congrArg (fun left => left.2.2.context) left
  have taken := Call.output_eq_ok_iff.mpr ⟨outcome, rfl⟩
  refine ⟨_, _, step_of_output_ok taken, rfl, rfl, rfl, ?_⟩
  have failed : s'.context.metadata.recordsFailed = handed.length := by
    have ledger := congrArg (fun shown => shown.ledger.failed) seen
    exact ledger.trans (Nat.zero_add _)
  rw [scene, ← count, ← failed]
  rfl

end Steps

/-- A field mapping processor as it is made to be registered. -/
structure Part where
  pluginId : Value
  version : Value
  targets : Targets

namespace Part

def processor (x : Part) : Processor :=
  FieldMapping.processor (FieldMapping.identity x.pluginId x.version) x.targets

def entry (x : Part) : Value × Processor := (x.processor.pluginId, x.processor)

theorem isMapper (x : Part) : IsMapper x.processor x.targets :=
  FieldMapping.isMapper_processor _ x.targets {}

end Part

section Parts

variable {p base : Pipeline} {a : Ambient} {parts : List Part} {records : List Fields}

def fieldsOf (parts : List Part) : Targets := parts.flatMap fun x => x.targets

theorem exists_steps_of_parts {g : Progress} (declared : IsDict (fieldsOf parts))
    (given : g.data = .list (records.map .record)) (dicts : ∀ fs ∈ records, IsDict fs)
    (sound : ∀ fs ∈ records, LeakFree (fieldsOf parts) fs)
    (delivers : refused (fieldsOf parts) records ≠ [] →
      ∀ x ∈ parts, x.processor.Delivers a g.context.pipelineName g.context.sink) :
    ∃ procs' g', p.steps a (parts.map Part.entry) g = (procs', g', none) ∧
      Mapped g g' (fieldsOf parts) records := by
  induction parts generalizing g records with
  | nil =>
    have all : converted [] records = records := by
      simp [converted, FieldMapping.convertRecord, Except.toOption]
    have none : refused [] records = [] := by
      simp [refused, FieldMapping.convertRecord, Except.isOk, Except.toBool]
    exact ⟨_, g, rfl, by rw [given]; simp [fieldsOf, all], rfl, rfl, by simp [fieldsOf, none]⟩
  | cons x rest ih =>
    have split : fieldsOf (x :: rest) = x.targets ++ fieldsOf rest := List.flatMap_cons
    rw [split] at declared sound delivers ⊢
    have count := FieldMapping.length_refused_append x.targets (fieldsOf rest) records
    have here := declared.sublist (List.sublist_append_left x.targets (fieldsOf rest))
    have later := declared.sublist (List.sublist_append_right x.targets (fieldsOf rest))
    have some {ts : Targets} {rs : List Fields} (h : refused ts rs ≠ [])
        (le : (refused ts rs).length ≤ (refused (x.targets ++ fieldsOf rest) records).length) :
        refused (x.targets ++ fieldsOf rest) records ≠ [] := by
      intro none
      rw [none] at le
      exact h (List.eq_nil_of_length_eq_zero (Nat.le_zero.mp le))
    obtain ⟨proc', g₁, step, mapped⟩ := @exists_step_of_mapper p a x.processor.pluginId _ _ g records
      x.isMapper here given dicts
      (fun fs hfs => (sound fs hfs).of_subset (List.subset_append_left _ _))
      fun h => delivers (some h (by omega)) x List.mem_cons_self
    -- the rest sees only what this part converted, and finds its own fields there as they were
    have dicts' : ∀ fs' ∈ converted x.targets records, IsDict fs' := by
      intro fs' hfs'
      obtain ⟨fs, hfs, h⟩ := FieldMapping.mem_converted_iff.mp hfs'
      exact FieldMapping.isDict_convertRecord (dicts fs hfs) h
    have sound' : ∀ fs' ∈ converted x.targets records, LeakFree (fieldsOf rest) fs' := by
      intro fs' hfs'
      obtain ⟨fs, hfs, h⟩ := FieldMapping.mem_converted_iff.mp hfs'
      exact (sound fs hfs).convertRecord declared (dicts fs hfs) h
    obtain ⟨procs', g', steps, mapped'⟩ := ih later mapped.data dicts' sound' fun h y hy => by
      rw [mapped.pipelineName, mapped.sink]
      exact delivers (some h (by omega)) y (List.mem_cons_of_mem x hy)
    refine ⟨_, g', by simp only [List.map_cons, Part.entry, Pipeline.steps, step, steps]; rfl, ?_⟩
    refine ⟨?_, mapped'.pipelineName.trans mapped.pipelineName, mapped'.sink.trans mapped.sink, ?_⟩
    · rw [mapped'.data, FieldMapping.converted_append]
    · rw [mapped'.recordsFailed, mapped.recordsFailed, count, Nat.add_assoc]

theorem registerAll_eq {p p' : Pipeline} {procs : List Processor} (built : p.registerAll procs = .ok p')
    (absent : ∀ e ∈ p.processors, ∀ proc ∈ procs, ¬ e.1.sameKey proc.pluginId = true)
    (distinct : procs.Pairwise fun proc proc' => ¬ proc.pluginId.sameKey proc'.pluginId = true) :
    p' = { p with processors := p.processors ++ procs.map fun proc => (proc.pluginId, proc) } := by
  induction procs generalizing p with
  | nil =>
    cases built
    simp
  | cons proc rest ih =>
    obtain ⟨apart, others⟩ := List.pairwise_cons.mp distinct
    obtain ⟨⟨⟩, accepted, built⟩ := exists_of_bind_eq_ok built
    have new : Value.atKey? proc.pluginId p.processors = none :=
      Value.atKey?_eq_none_iff.mpr fun e he => absent e he proc List.mem_cons_self
    rw [register_of_ok accepted, Value.putEntry_of_atKey?_eq_none new] at built
    have absent' : ∀ e ∈ p.processors ++ [(proc.pluginId, proc)], ∀ proc' ∈ rest,
        ¬ e.1.sameKey proc'.pluginId = true := by
      refine List.forall_mem_append.mpr ⟨fun e he proc' h => ?_, List.forall_mem_singleton.mpr apart⟩
      exact absent e he proc' (List.mem_cons_of_mem _ h)
    rw [ih built absent' others]
    simp

theorem exists_run_of_parts (empty : base.processors = [])
    (built : base.registerAll (parts.map Part.processor) = .ok p)
    (distinct : parts.Pairwise fun x y => ¬ x.processor.pluginId.sameKey y.processor.pluginId = true)
    (declared : IsDict (fieldsOf parts)) (dicts : ∀ fs ∈ records, IsDict fs)
    (sound : ∀ fs ∈ records, LeakFree (fieldsOf parts) fs)
    (delivers : refused (fieldsOf parts) records ≠ [] →
      ∀ x ∈ parts, x.processor.Delivers a (.text base.name) base.sink) (t : Trail) :
    ∃ r p' t', p.run a (some (.list (records.map .record))) t = (.ok r, p', t') ∧
      r.output = .list ((converted (fieldsOf parts) records).map .record) ∧
      r.failedItems = (refused (fieldsOf parts) records).length := by
  have registered := registerAll_eq built (by simp [empty]) (List.pairwise_map.mpr distinct)
  have processors : p.processors = parts.map Part.entry := by
    rw [registered]
    simp [empty, Part.entry, Function.comp_def]
  have name : p.name = base.name := by rw [registered]
  have sink : p.sink = base.sink := by rw [registered]
  rw [← name, ← sink] at delivers
  let batch := Value.list (records.map .record)
  have sized : batch.length = .ok (records.map Value.record).length := rfl
  obtain ⟨procs', g, steps, mapped⟩ := @exists_steps_of_parts p a parts records
    (p.start a batch (records.map Value.record).length t) declared rfl dicts sound delivers
  rw [← processors] at steps
  obtain ⟨m, sized'⟩ : ∃ m, g.data.length = .ok m := by
    rw [mapped.data]
    exact ⟨_, rfl⟩
  obtain ⟨r, p', t', run, returned⟩ := exists_run_of_steps sized steps sized'
  refine ⟨r, p', t', run, returned.output.trans mapped.data, ?_⟩
  rw [returned.failedItems, mapped.recordsFailed]
  simp [start]

end Parts

/-- A mapping that is divided over mappers, in any order, comes to what one mapper for all of it
comes to, if no record that is refused raises while it is handed over. -/
theorem run_of_parts_eq {base p q : Pipeline} {a : Ambient} {whole : Part} {parts : List Part}
    {records : List Fields} (empty : base.processors = [])
    (built : base.registerAll (parts.map Part.processor) = .ok p)
    (built' : base.registerAll [whole.processor] = .ok q)
    (distinct : parts.Pairwise fun x y => ¬ x.processor.pluginId.sameKey y.processor.pluginId = true)
    (mapping : IsDict whole.targets) (divided : (fieldsOf parts).Perm whole.targets)
    (dicts : ∀ fs ∈ records, IsDict fs) (sound : ∀ fs ∈ records, LeakFree whole.targets fs)
    (delivers : refused whole.targets records ≠ [] →
      ∀ x ∈ whole :: parts, x.processor.Delivers a (.text base.name) base.sink) (t t₀ : Trail) :
    ∃ r r' p' q' t' t₀',
      p.run a (some (.list (records.map .record))) t = (.ok r, p', t') ∧
      q.run a (some (.list (records.map .record))) t₀ = (.ok r', q', t₀') ∧
      r.output = r'.output ∧ r.failedItems = r'.failedItems := by
  have one : fieldsOf [whole] = whole.targets := List.flatMap_singleton _ whole
  have declared := mapping.perm divided.symm
  have count := FieldMapping.length_refused_perm declared divided dicts
  have refuses (h : refused (fieldsOf parts) records ≠ []) : refused whole.targets records ≠ [] := by
    intro none
    rw [none] at count
    exact h (List.eq_nil_of_length_eq_zero count)
  obtain ⟨r, p', t', run, output, failed⟩ := exists_run_of_parts empty built distinct declared dicts
    (fun fs hfs => (sound fs hfs).of_subset divided.subset)
    (fun h x hx => delivers (refuses h) x (List.mem_cons_of_mem whole hx)) t
  obtain ⟨r', q', t₀', run', output', failed'⟩ := @exists_run_of_parts q base a [whole] records empty built'
    (List.pairwise_singleton _ _) (one ▸ mapping) dicts (one ▸ sound)
    (fun h x hx => delivers (one ▸ h) x (List.mem_singleton.mp hx ▸ List.mem_cons_self)) t₀
  rw [one] at output' failed'
  refine ⟨r, r', p', q', t', t₀', run, run', ?_, ?_⟩
  · rw [output, output', FieldMapping.converted_perm declared divided dicts]
  · rw [failed, failed', count]

theorem run_of_parts_eq_swapped :
    let speed : Targets := [(.text "speed", .integer)]
    let n : Targets := [(.text "n", .integer)]
    let whole : Part := ⟨.text "whole", .null, speed ++ n⟩
    let parts : List Part := [⟨.text "b", .null, n⟩, ⟨.text "a", .null, speed⟩]
    let base : Pipeline :=
      { name := "telemetry", id := "0", activator := { enforce := true }, sink := some .collect }
    let a : Ambient := { now := .epoch, settings := .unset }
    let batch := Value.list
      [.record [(.text "speed", .text "7"), (.text "n", .text "x")],
        .record [(.text "speed", .text "8"), (.text "n", .text "2")]]
    ∃ p q r r' p' q' t t',
      base.registerAll (parts.map Part.processor) = .ok p ∧
      base.registerAll [whole.processor] = .ok q ∧
      p.run a (some batch) {} = (.ok r, p', t) ∧ q.run a (some batch) {} = (.ok r', q', t') ∧
      r.output = r'.output ∧ r.failedItems = r'.failedItems := by
  intro speed n whole parts base a batch
  let records : List Fields :=
    [[(.text "speed", .text "7"), (.text "n", .text "x")],
      [(.text "speed", .text "8"), (.text "n", .text "2")]]
  obtain ⟨p, built⟩ : ∃ p, base.registerAll (parts.map Part.processor) = .ok p := ⟨_, rfl⟩
  obtain ⟨q, built'⟩ : ∃ q, base.registerAll [whole.processor] = .ok q := ⟨_, rfl⟩
  have distinct : parts.Pairwise fun x y =>
      ¬ x.processor.pluginId.sameKey y.processor.pluginId = true := by decide
  have mapping : IsDict whole.targets := ⟨by decide, by decide⟩
  have dicts : ∀ fs ∈ records, IsDict fs :=
    List.forall_mem_cons.mpr ⟨⟨by decide, by decide⟩,
      List.forall_mem_singleton.mpr ⟨by decide, by decide⟩⟩
  have sound : ∀ fs ∈ records, LeakFree whole.targets fs := by
    intro fs hfs t ht fault leak
    simp only [records, whole, speed, n, List.cons_append, List.nil_append, List.mem_cons,
      List.not_mem_nil, or_false] at hfs ht
    rcases hfs with rfl | rfl <;> rcases ht with rfl | rfl <;> cases leak
  have taken : a.settings.deadLetterEnabled = true →
      ∀ s, base.sink = some s → ∀ earlier r, s.respond earlier r = none := by
    rintro - s ⟨⟩ earlier r
    rfl
  have full (x : Part) (hx : x ∈ whole :: parts) : x.processor.Delivers a (.text base.name) base.sink := by
    simp only [whole, parts, List.mem_cons, List.not_mem_nil, or_false] at hx
    rcases hx with rfl | rfl | rfl
    all_goals exact ⟨Failure.isName_text (by decide), Failure.isName_text (by decide),
      Failure.isName_text (by decide), by decide, taken⟩
  obtain ⟨r, r', p', q', t, t', runs⟩ := run_of_parts_eq (a := a) rfl built built' distinct mapping
    (List.Perm.swap _ _ []) dicts sound (fun _ => full) {} {}
  exact ⟨p, q, r, r', p', q', t, t', built, built', runs⟩

/-- With a sink that takes nothing, the mapper of the field that is fine still converts it, and the
one mapper for both does not. -/
theorem run_of_parts_ne_under_full_sink :
    let speed : Targets := [(.text "speed", .integer)]
    let n : Targets := [(.text "n", .integer)]
    let whole : Part := ⟨.text "whole", .null, speed ++ n⟩
    let parts : List Part := [⟨.text "a", .null, speed⟩, ⟨.text "b", .null, n⟩]
    let base : Pipeline :=
      { name := "telemetry", id := "0", activator := { enforce := true }
        sink := some (.failAfter 0 "full") }
    let a : Ambient := { now := .epoch, settings := .unset }
    let fs : Fields := [(.text "speed", .text "7"), (.text "n", .text "x")]
    let output (procs : List Part) : Option Value := do
      let p ← (base.registerAll (procs.map Part.processor)).toOption
      let r ← (p.run a (some (.list [.record fs])) {}).1.toOption
      return r.output
    LeakFree whole.targets fs ∧ output parts ≠ output [whole] ∧
      (output parts).map Value.shown = some (.ok "[\x7b'speed': 7, 'n': 'x'\x7d]") ∧
      (output [whole]).map Value.shown = some (.ok "[\x7b'speed': '7', 'n': 'x'\x7d]") := by
  intro speed n whole parts base a fs output
  have split : (output parts).map Value.shown = some (.ok "[\x7b'speed': 7, 'n': 'x'\x7d]") := by
    decide +kernel
  have undivided :
      (output [whole]).map Value.shown = some (.ok "[\x7b'speed': '7', 'n': 'x'\x7d]") := by
    decide +kernel
  refine ⟨fun t ht fault leak => ?_, fun same => ?_, split, undivided⟩
  · simp only [whole, speed, n, List.cons_append, List.nil_append, List.mem_cons, List.not_mem_nil,
      or_false] at ht
    rcases ht with rfl | rfl <;> cases leak
  · rw [same, undivided] at split
    exact absurd split (by decide)

end Pipeline

end RecordPipeline
