import RecordPipeline.Proofs.FieldMapping.Process
set_option autoImplicit false

namespace RecordPipeline

namespace FieldMapping

open Value (IsDict)

theorem isOk_convertRecord {ts : Targets} {fs : Fields} (hts : IsDict ts) (hfs : IsDict fs) :
    (convertRecord ts fs).isOk = converts ts fs := by
  have iff := exists_convertRecord_eq_ok_iff hts hfs
  cases h : convertRecord ts fs with
  | ok fs' =>
    have all : converts ts fs = true := iff.mp ⟨fs', h⟩
    rw [all]
    rfl
  | error fault =>
    have some : ¬ converts ts fs = true := by
      rw [← iff, h]
      simp
    rw [eq_false_of_ne_true some]
    rfl

theorem refused_eq_filter {ts : Targets} {records : List Fields} (hts : IsDict ts)
    (dicts : ∀ fs ∈ records, IsDict fs) :
    refused ts records = records.filter fun fs => !converts ts fs :=
  List.filter_congr fun fs hfs => by rw [isOk_convertRecord hts (dicts fs hfs)]

theorem map_filter_converts {ts : Targets} {records : List Fields} (hts : IsDict ts)
    (dicts : ∀ fs ∈ records, IsDict fs) :
    (records.filter (converts ts)).map (List.map (convertEntry ts)) =
      (converted ts records).map (List.map .ok) := by
  induction records with
  | nil => rfl
  | cons fs rest ih =>
    have hfs := dicts fs List.mem_cons_self
    have others := ih fun fs' hfs' => dicts fs' (List.mem_cons_of_mem _ hfs')
    have first := isOk_convertRecord hts hfs
    cases h : convertRecord ts fs with
    | ok fs' =>
      rw [h] at first
      rw [converted_cons_ok rest h, List.filter_cons_of_pos first.symm, List.map_cons, List.map_cons,
        others, (convertRecord_eq_ok_iff hts hfs).mp h]
    | error fault =>
      rw [h] at first
      have out : ¬ converts ts fs = true := by
        rw [← first]
        simp [Except.isOk, Except.toBool]
      rw [converted_cons_error rest h, List.filter_cons_of_neg out, others]

/-- What a call has done to the processor and the scene when it split the records of a batch. -/
structure Partitions (ts : Targets) (a : Ambient) (p p' : Processor) (s s' : Scene)
    (records kept : List Fields) : Prop where
  converted : (records.filter (converts ts)).map (List.map (convertEntry ts)) =
    kept.map (List.map .ok)
  handedOver : s'.context.failureRecords = s.context.failureRecords ++
    (records.filter fun fs => !converts ts fs).map fun fs =>
      p.letter s.context.pipelineName a.now (.record fs)
  recordsFailed : s'.context.metadata.recordsFailed = s.context.metadata.recordsFailed +
    (records.filter fun fs => !converts ts fs).length
  failedRecords : p'.tally.failedRecords = p.tally.failedRecords +
    (records.filter fun fs => !converts ts fs).length
  recordsProcessed : s'.context.metadata.recordsProcessed = some kept.length
  convertedMetric :
    s'.context.metadata.metrics.lookup "records_converted" = some (countMetric kept.length)
  deadLetteredMetric : s'.context.metadata.metrics.lookup "records_dead_lettered" =
    some (countMetric (records.filter fun fs => !converts ts fs).length)

section Call

variable {p p' : Processor} {ts : Targets} {a : Ambient} {data out : Value} {records : List Fields}
  {s s' : Scene}

theorem partitions_of_settled {kept : List Fields} {handed : List FailureRecord}
    (mapper : IsMapper p ts) (declared : IsDict ts) (batch : IsBatch data records)
    (routed : a.settings.deadLetterEnabled = true)
    (settled : settle p.toIdentity a ts s.context.pipelineName (s.route a) records =
      (.ok kept, handed)) :
    ∃ p' s', p.process a data s = (.ok (sameForm data kept), p', s') ∧
      Partitions ts a p p' s s' records kept := by
  obtain ⟨s', call, seen⟩ := process_of_settled mapper declared batch s settled
  obtain ⟨rfl, rfl⟩ := eq_of_settle_eq_ok settled
  have rest : records.length - (converted ts records).length = (refused ts records).length := by
    have := length_converted_add_length_refused ts records
    omega
  have letters : (s'.ledger a).kept = _ := congrArg (fun v => v.ledger.kept) seen
  have count : (s'.ledger a).failed = _ := congrArg (fun v => v.ledger.failed) seen
  have on : (s.ledger a).route.enabled = true := routed
  rw [rest] at seen
  simp only [Ledger.hand, on, if_true, refused_eq_filter declared batch.dicts, List.length_map]
    at letters count seen call
  refine ⟨_, s', call, ?_⟩
  constructor
  case converted => exact map_filter_converts declared batch.dicts
  case handedOver => exact letters
  case recordsFailed => exact count
  case failedRecords => rfl
  case recordsProcessed => exact congrArg Shown.processed seen
  case convertedMetric => exact congrArg Shown.converted seen
  case deadLetteredMetric => exact congrArg Shown.deadLettered seen

/-- A call that returns has split its batch, and so does a call on the same records in any other
form. -/
theorem process_partitions (mapper : IsMapper p ts) (declared : IsDict ts)
    (batch : IsBatch data records) (routed : a.settings.deadLetterEnabled = true)
    (returned : p.process a data s = (.ok out, p', s')) :
    ∃ kept, out = sameForm data kept ∧ IsBatch out kept ∧
      Partitions ts a p p' s s' records kept ∧
      ∀ data₂, IsBatch data₂ records → ∃ out₂ p₂ s₂,
        p.process a data₂ s = (.ok out₂, p₂, s₂) ∧ IsBatch out₂ kept ∧
          s₂.context.failureRecords = s'.context.failureRecords := by
  rcases settled : settle p.toIdentity a ts s.context.pipelineName (s.route a) records with
    ⟨fault | kept, handed⟩
  · obtain ⟨mid, call, -⟩ := process_of_unsettled mapper batch s settled
    rw [call] at returned
    cases returned
  · have keys : ∀ fs' ∈ kept, ∃ fs ∈ records, fs'.map Prod.fst = fs.map Prod.fst := by
      intro fs' hfs'
      obtain ⟨fs, hfs, h⟩ := mem_converted_iff.mp ((eq_of_settle_eq_ok settled).1 ▸ hfs')
      exact ⟨fs, hfs, map_fst_convertRecord h⟩
    obtain ⟨p₁, s₁, call, split⟩ := partitions_of_settled mapper declared batch routed settled
    rw [call] at returned
    cases returned
    refine ⟨kept, rfl, batch.sameForm keys, split, fun data₂ batch₂ => ?_⟩
    obtain ⟨p₂, s₂, call₂, split₂⟩ := partitions_of_settled mapper declared batch₂ routed settled
    refine ⟨_, p₂, s₂, call₂, batch₂.sameForm keys, ?_⟩
    rw [split₂.handedOver, split.handedOver]

end Call

theorem process_partitions_two_rows :
    let p := processor (identity (.text "mapper") .null) [(.text "n", .integer)]
    let a : Ambient := { now := .epoch, settings := .unset }
    let s : Scene := { context := { pipelineName := .text "telemetry" } }
    let rows := [[(.text "n", .text "5")], [(.text "n", .text "x")]]
    ∃ kept p' s', p.process a (.table ["n"] [[.text "5"], [.text "x"]]) s =
        (.ok (.table ["n"] [[.int 5]]), p', s') ∧
      Partitions [(.text "n", .integer)] a p p' s s' rows kept ∧
      ∃ out₂ p₂ s₂, p.process a (.list (rows.map .record)) s = (.ok out₂, p₂, s₂) ∧
        IsBatch out₂ kept ∧ s₂.context.failureRecords = s'.context.failureRecords := by
  have declared : IsDict [(Value.text "n", TargetType.integer)] := ⟨by decide, by decide⟩
  have table : IsBatch (.table ["n"] [[.text "5"], [.text "x"]])
      [[(.text "n", .text "5")], [(.text "n", .text "x")]] := .table (by decide) (by decide)
  obtain ⟨⟨p', s'⟩, call⟩ : ∃ left,
      (processor (identity (.text "mapper") .null) [(.text "n", .integer)]).process
        { now := .epoch, settings := .unset } (.table ["n"] [[.text "5"], [.text "x"]])
        { context := { pipelineName := .text "telemetry" } } =
      (.ok (.table ["n"] [[.int 5]]), left) := ⟨_, Prod.ext rfl rfl⟩
  obtain ⟨kept, -, -, split, others⟩ :=
    process_partitions (isMapper_processor _ _ {}) declared table rfl call
  exact ⟨kept, p', s', call, split, others _ (.list table.dicts)⟩

end FieldMapping

end RecordPipeline
