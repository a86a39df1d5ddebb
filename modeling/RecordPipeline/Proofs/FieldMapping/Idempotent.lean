import RecordPipeline.Proofs.FieldMapping.Partition
import RecordPipeline.Proofs.Processor.Sending
set_option autoImplicit false

namespace RecordPipeline

namespace Converter

theorem convert_of_hasType {t : TargetType} {v : Value} (typed : v.HasType t) : convert t v = .ok v := by
  cases t <;> cases v <;> first | rfl | exact typed.elim

theorem convert_convert {t : TargetType} {v w : Value} (h : convert t v = .ok w) : convert t w = .ok w :=
  convert_of_hasType (hasType_of_convert h)

end Converter

namespace FieldMapping

open Value (IsDict)

theorem convertEntry_convertEntry {ts : Targets} {e e' : Value × Value} (h : convertEntry ts e = .ok e') :
    convertEntry ts e' = .ok e' := by
  have key := fst_eq_of_convertEntry h
  cases declared : declaredFor ts e.1 with
  | none =>
    rw [← key] at declared
    simp only [convertEntry, declared]
  | some t =>
    have same := Converter.convert_convert ((convertEntry_eq_ok_iff declared).mp h).2
    rw [← key] at declared
    exact (convertEntry_eq_ok_iff declared).mpr ⟨rfl, same⟩

theorem convertRecord_convertRecord {ts : Targets} {fs fs' : Fields} (hts : IsDict ts) (hfs : IsDict fs)
    (h : convertRecord ts fs = .ok fs') : convertRecord ts fs' = .ok fs' := by
  have entries := (convertRecord_eq_ok_iff hts hfs).mp h
  refine (convertRecord_eq_ok_iff hts (isDict_convertRecord hfs h)).mpr (List.map_congr_left ?_)
  intro e' he'
  have here : Except.ok e' ∈ fs.map (convertEntry ts) := entries ▸ List.mem_map_of_mem he'
  obtain ⟨e, -, converted⟩ := List.mem_map.mp here
  exact convertEntry_convertEntry converted

theorem settle_of_fixed {ts : Targets} {records : List Fields}
    (fixed : ∀ fs ∈ records, convertRecord ts fs = .ok fs) (i : Identity) (a : Ambient)
    (pipelineName : Value) (route : Route) :
    settle i a ts pipelineName route records = (.ok records, []) := by
  induction records with
  | nil => rfl
  | cons fs rest ih =>
    obtain ⟨first, others⟩ := List.forall_mem_cons.mp fixed
    simp only [settle, first, ih others, Except.map]

theorem sameForm_sameForm (data : Value) (records : List Fields) :
    sameForm (sameForm data records) records = sameForm data records := by
  cases data <;> rfl

/-- A call that returns its data as it is and gives up on none of the records. -/
structure Keeps (p : Processor) (a : Ambient) (data : Value) (s : Scene) (p' : Processor) (s' : Scene) :
    Prop where
  call : p.process a data s = (.ok data, p', s')
  ledger : s'.ledger a = s.ledger a
  failedRecords : p'.tally.failedRecords = p.tally.failedRecords
  deadLettered : s'.context.metadata.metrics.lookup "records_dead_lettered" = some (countMetric 0)

section Call

variable {p p' : Processor} {ts : Targets} {a : Ambient} {data out : Value} {records : List Fields}
  {s s' : Scene}

theorem exists_keeps_of_fixed (mapper : IsMapper p ts) (declared : IsDict ts) (batch : IsBatch data records)
    (form : sameForm data records = data) (fixed : ∀ fs ∈ records, convertRecord ts fs = .ok fs)
    (a : Ambient) (s : Scene) : ∃ p' s', Keeps p a data s p' s' := by
  have settled := settle_of_fixed fixed p.toIdentity a s.context.pipelineName (s.route a)
  obtain ⟨s', call, seen⟩ := process_of_settled mapper declared batch s settled
  rw [form] at call
  refine ⟨_, s', call, ?_, by simp, ?_⟩
  · rw [← Ledger.hand_nil (s.ledger a)]
    exact congrArg Shown.ledger seen
  · have counted := congrArg Shown.deadLettered seen
    rwa [Nat.sub_self] at counted

theorem exists_kept_of_process (mapper : IsMapper p ts) (declared : IsDict ts) (batch : IsBatch data records)
    (returned : p.process a data s = (.ok out, p', s')) :
    IsMapper p' ts ∧ ∃ kept, IsBatch out kept ∧ sameForm out kept = out ∧
      ∀ fs ∈ kept, convertRecord ts fs = .ok fs := by
  rcases settled : settle p.toIdentity a ts s.context.pipelineName (s.route a) records with
    ⟨fault | kept, handed⟩
  · obtain ⟨mid, call, -⟩ := process_of_unsettled mapper batch s settled
    rw [call] at returned
    cases returned
  · obtain ⟨s₁, call, -⟩ := process_of_settled mapper declared batch s settled
    rw [call] at returned
    cases returned
    have from_batch : ∀ fs' ∈ kept, ∃ fs ∈ records, convertRecord ts fs = .ok fs' := fun fs' hfs' =>
      mem_converted_iff.mp ((eq_of_settle_eq_ok settled).1 ▸ hfs')
    refine ⟨⟨mapper.input, mapper.output, mapper.core⟩, kept, batch.sameForm fun fs' hfs' => ?_,
      sameForm_sameForm data kept, fun fs' hfs' => ?_⟩
    · obtain ⟨fs, hfs, h⟩ := from_batch fs' hfs'
      exact ⟨fs, hfs, map_fst_convertRecord h⟩
    · obtain ⟨fs, hfs, h⟩ := from_batch fs' hfs'
      exact convertRecord_convertRecord declared (batch.dicts fs hfs) h

/-- What a mapper returns goes through it again, and through any mapper of the same types, unchanged
and with no record handed over. Each converter leaves as it is whatever it can return. -/
theorem process_idempotent (mapper : IsMapper p ts) (declared : IsDict ts) (batch : IsBatch data records)
    (returned : p.process a data s = (.ok out, p', s')) :
    (∀ a₂ s₂, ∃ p'' s'', Keeps p' a₂ out s₂ p'' s'') ∧
      (∀ q, IsMapper q ts → ∀ a₂ s₂, ∃ q' s'', Keeps q a₂ out s₂ q' s'') ∧
      ∀ t v w, Converter.convert t v = .ok w → Converter.convert t w = .ok w := by
  obtain ⟨mapper', kept, batch', form, fixed⟩ := exists_kept_of_process mapper declared batch returned
  exact ⟨exists_keeps_of_fixed mapper' declared batch' form fixed,
    fun _ other => exists_keeps_of_fixed other declared batch' form fixed,
    fun _ _ _ => Converter.convert_convert⟩

end Call

theorem process_idempotent_three_rows :
    let p := processor (identity (.text "mapper") .null) [(.text "x", .double)]
    let a : Ambient := { now := .epoch, settings := .unset }
    let s : Scene := { context := { pipelineName := .text "telemetry" } }
    ∃ p' s' p'' s'',
      p.process a (.table ["x"] [[.text "-0"], [.text "NaN"], [.text "y"]]) s =
        (.ok (.table ["x"] [[.float (.zero true)], [.float .nan]]), p', s') ∧
      Keeps p' a (.table ["x"] [[.float (.zero true)], [.float .nan]]) s' p'' s'' := by
  have declared : IsDict [(Value.text "x", TargetType.double)] := ⟨by decide, by decide⟩
  have batch : IsBatch (.table ["x"] [[.text "-0"], [.text "NaN"], [.text "y"]])
      [[(.text "x", .text "-0")], [(.text "x", .text "NaN")], [(.text "x", .text "y")]] :=
    .table (by decide) (by decide)
  obtain ⟨⟨p', s'⟩, call⟩ : ∃ left,
      (processor (identity (.text "mapper") .null) [(.text "x", .double)]).process
        { now := .epoch, settings := .unset }
        (.table ["x"] [[.text "-0"], [.text "NaN"], [.text "y"]])
        { context := { pipelineName := .text "telemetry" } } =
      (.ok (.table ["x"] [[.float (.zero true)], [.float .nan]]), left) := ⟨_, Prod.ext rfl rfl⟩
  obtain ⟨again, -⟩ := process_idempotent (isMapper_processor _ _ {}) declared batch call
  obtain ⟨p'', s'', keeps⟩ := again { now := .epoch, settings := .unset } s'
  exact ⟨p', s', p'', s'', call, keeps⟩

end FieldMapping

end RecordPipeline
