import RecordPipeline.Proofs.FieldMapping.Batch
import RecordPipeline.Proofs.FieldMapping.Settle
set_option autoImplicit false

/-!
Calls of the field mapping processor on batches. Its contracts let every batch in and every
converted one out, so a call ends as its records are settled.
-/

namespace RecordPipeline

namespace FieldMapping

open Value (IsDict)

section Contracts

theorem checkRecords_map_record (records : List Fields) (index : Nat) :
    Contract.checkRecords index (records.map .record) = [] := by
  induction records generalizing index with
  | nil => rfl
  | cons fs rest ih => exact ih (index + 1)

theorem checkFields_of_typed {ts : Targets} {fs : Fields} (typed : Typed ts fs) (index : Nat) :
    Contract.checkFields index (.record fs) (ts.map fun t => (t.1, .one (fieldType t.2))) =
      .ok [] := by
  induction ts with
  | nil => rfl
  | cons t ts ih =>
    have others := ih fun t' ht' => typed t' (List.mem_cons_of_mem _ ht')
    have first := typed t List.mem_cons_self
    simp only [List.map_cons, Contract.checkFields, Contract.lookUp, others, bind, Except.bind]
    cases found : Value.atKey? t.1 fs with
    | none => rfl
    | some v => simp [Expectation.accepts, first v found, pure, Except.pure]

theorem checkItems_of_typed {ts : Targets} {kept : List Fields} (typed : ∀ fs ∈ kept, Typed ts fs)
    (index : Nat) :
    Contract.checkItems (ts.map fun t => (t.1, .one (fieldType t.2))) index (kept.map .record) =
      .ok [] := by
  induction kept generalizing index with
  | nil => rfl
  | cons fs rest ih =>
    have first := checkFields_of_typed (typed fs List.mem_cons_self) index
    have others := ih (fun fs' hfs' => typed fs' (List.mem_cons_of_mem _ hfs')) (index + 1)
    simp [Contract.checkItems, first, others, bind, Except.bind, pure, Except.pure]

variable {p : Processor} {ts : Targets} {data : Value} {records kept : List Fields}

theorem judgement_input_list (records : List Fields) :
    p.judgement .input (some inputContract.inWork) (.list (records.map .record)) = .ok () := by
  simp [Processor.judgement_inWork, Contract.judge, Contract.schema, Contract.content,
    Contract.inputSchema, Contract.inputContent, Contract.accepts, inputContract, Value.length,
    checkRecords_map_record, bind, Except.bind, pure, Except.pure]

theorem judgement_input_table (columns : List String) (rows : List (List Value)) :
    p.judgement .input (some inputContract.inWork) (.table columns rows) = .ok () := by
  simp [Processor.judgement_inWork, Contract.judge, Contract.schema, Contract.content,
    Contract.inputSchema, Contract.inputContent, Contract.accepts, inputContract, Value.length,
    bind, Except.bind, pure, Except.pure]

theorem judgement_input (found : recordsOf data = .ok records) :
    p.judgement .input (some inputContract.inWork) data = .ok () := by
  rcases eq_of_recordsOf_eq_ok found with rfl | ⟨columns, rows, rfl⟩
  · exact judgement_input_list records
  · exact judgement_input_table columns rows

theorem judgement_output_list (typed : ∀ fs ∈ kept, Typed ts fs) :
    p.judgement .output (some (outputContract ts).inWork) (.list (kept.map .record)) = .ok () := by
  simp [Processor.judgement_inWork, Contract.judge, Contract.schema, Contract.content,
    Contract.outputSchema, Contract.outputContent, Contract.accepts, outputContract,
    Value.batchSize?, checkItems_of_typed typed 0, bind, Except.bind, pure, Except.pure]

theorem judgement_output_table (ts : Targets) (columns : List String) (rows : List (List Value)) :
    p.judgement .output (some (outputContract ts).inWork) (.table columns rows) = .ok () := by
  simp [Processor.judgement_inWork, Contract.judge, Contract.schema, Contract.content,
    Contract.outputSchema, Contract.outputContent, Contract.accepts, outputContract,
    Value.batchSize?, bind, Except.bind, pure, Except.pure]

theorem judgement_output (batch : IsBatch data records) (typed : ∀ fs ∈ kept, Typed ts fs) :
    p.judgement .output (some (outputContract ts).inWork) (sameForm data kept) = .ok () := by
  cases batch with
  | list dicts => exact judgement_output_list typed
  | table apart width => exact judgement_output_table ts _ _

end Contracts

/-- A field mapping processor for declared types, under any identity and whatever it did before. -/
structure IsMapper (p : Processor) (ts : Targets) : Prop where
  input : p.input = some inputContract.inWork
  output : p.output = some (outputContract ts).inWork
  core : p.core = FieldMapping.core p.toIdentity ts

theorem isMapper_processor (i : Identity) (ts : Targets) (tally : Tally) :
    IsMapper { processor i ts with tally } ts := ⟨rfl, rfl, rfl⟩

/-- What the call of a mapper lets one see of a scene: the dead-letter path and the numbers it
reports. -/
structure Shown where
  ledger : Ledger
  converted : Option Value
  deadLettered : Option Value
  processed : Option Nat

def shown (a : Ambient) (s : Scene) : Shown :=
  { ledger := s.ledger a
    converted := s.context.metadata.metrics.lookup "records_converted"
    deadLettered := s.context.metadata.metrics.lookup "records_dead_lettered"
    processed := s.context.metadata.recordsProcessed }

theorem blind_ledger (a : Ambient) : Processor.Blind (Scene.ledger a) :=
  ⟨fun _ _ => rfl, fun _ _ => rfl, fun _ _ => rfl, fun _ _ _ => rfl⟩

theorem blind_shown (a : Ambient) : Processor.Blind (shown a) where
  note _ _ := rfl
  addError _ _ := rfl
  addWarning _ _ := rfl
  metadata s side v := by
    have first : side.name ++ "_validation_metadata" ≠ "records_converted" := by
      cases side <;> decide
    have second : side.name ++ "_validation_metadata" ≠ "records_dead_lettered" := by
      cases side <;> decide
    simp only [shown, Context.addMetric, lookup_putNamed_of_ne first, lookup_putNamed_of_ne second]
    rfl

section Call

variable {p : Processor} {ts : Targets} {a : Ambient} {data : Value} {records kept : List Fields}
  {handed : List FailureRecord} {fault : Fault}

theorem run_convertAll_noted (i : Identity) (ts : Targets) (records : List Fields) (s : Scene) :
    ∃ s', (convertAll i a ts records).run.run (s.note (startEntry i ts records)) =
        ((settle i a ts s.context.pipelineName (s.route a) records).1, s') ∧
      HandsOver a s s' (settle i a ts s.context.pipelineName (s.route a) records).2 := by
  obtain ⟨s', run, handsOver⟩ := run_convertAll i a ts records (s.note (startEntry i ts records))
  exact ⟨s', run, (HandsOver.note (i.quiet_logger _ _) a s).trans handsOver⟩

theorem run_core_of_settled (found : recordsOf data = .ok records) (i : Identity) (s : Scene)
    (settled : settle i a ts s.context.pipelineName (s.route a) records = (.ok kept, handed)) :
    ∃ s', (core i ts a data).run.run s = (.ok (sameForm data kept), s') ∧ Sent a s s' handed ∧
      (shown a s').converted = some (countMetric kept.length) ∧
      (shown a s').deadLettered = some (countMetric (records.length - kept.length)) := by
  obtain ⟨mid, run, handsOver⟩ := run_convertAll_noted i ts records s
  rw [settled] at run handsOver
  let metered := (mid.context.addMetric "records_converted" (countMetric kept.length)).addMetric
    "records_dead_lettered" (countMetric (records.length - kept.length))
  refine ⟨{ mid with context := metered }, ?_, ⟨(Sent.of_handsOver handsOver).ledger, handsOver.journal⟩, ?_, ?_⟩
  · simp only [core, found, Work.run_bind, Work.run_note, run, Work.run_change]
    rfl
  · have ne : "records_dead_lettered" ≠ "records_converted" := by decide
    simp only [shown, metered, Context.addMetric, lookup_putNamed_of_ne ne, lookup_putNamed]
  · simp only [shown, metered, Context.addMetric, lookup_putNamed]

theorem run_core_of_unsettled (found : recordsOf data = .ok records) (i : Identity) (s : Scene)
    (unsettled : settle i a ts s.context.pipelineName (s.route a) records = (.error fault, handed)) :
    ∃ s', (core i ts a data).run.run s = (.error fault, s') ∧ Sent a s s' handed := by
  obtain ⟨mid, run, handsOver⟩ := run_convertAll_noted i ts records s
  rw [unsettled] at run handsOver
  refine ⟨mid, ?_, .of_handsOver handsOver⟩
  simp only [core, found, Work.run_bind, Work.run_note, run]

theorem settle_eq_of_ledger_eq {s s' : Scene} (same : s'.ledger a = s.ledger a) (i : Identity)
    (ts : Targets) (records : List Fields) :
    settle i a ts s'.context.pipelineName (s'.route a) records =
      settle i a ts s.context.pipelineName (s.route a) records := by
  have name : s'.context.pipelineName = s.context.pipelineName := congrArg Ledger.pipelineName same
  have route : s'.route a = s.route a := congrArg Ledger.route same
  rw [name, route]

theorem run_prepare (mapper : IsMapper p ts) (found : recordsOf data = .ok records) (s : Scene) :
    ∃ before, (p.prepare data).run.run { s with context := p.enter a.now s.context } =
      (.ok (), before) ∧ before.ledger a = s.ledger a := by
  obtain ⟨before, run, same⟩ := Processor.prepare_passes (blind_ledger a) (fun _ _ => rfl) p data
    { s with context := p.enter a.now s.context }
  rw [mapper.input, judgement_input found] at run
  exact ⟨before, run, same⟩

theorem run_release (mapper : IsMapper p ts) (batch : IsBatch data records)
    (typed : ∀ fs ∈ kept, Typed ts fs) (s : Scene) :
    ∃ after, (p.release (sameForm data kept)).run.run s = (.ok (), after) ∧
      shown a after = { shown a s with processed := some kept.length } := by
  have size : (sameForm data kept).batchSize? = some kept.length := by
    cases batch <;> simp [sameForm, Value.batchSize?]
  have held := Processor.hold_passes (blind_shown a) p .output p.output (sameForm data kept)
  rw [mapper.output, judgement_output batch typed] at held
  obtain ⟨after, run, same⟩ := held { s with context := { s.context with
    metadata := { s.context.metadata with recordsProcessed := some kept.length } } }
  refine ⟨after, ?_, same⟩
  simp only [Processor.release, Processor.countOut, size, Work.run_bind, Work.run_change,
    mapper.output]
  exact run

theorem process_of_settled (mapper : IsMapper p ts) (declared : IsDict ts)
    (batch : IsBatch data records) (s : Scene)
    (settled : settle p.toIdentity a ts s.context.pipelineName (s.route a) records =
      (.ok kept, handed)) :
    ∃ s', p.process a data s =
        (.ok (sameForm data kept),
          { p with tally := { p.tally with
              processed := p.tally.processed + 1
              failedRecords := p.tally.failedRecords + handed.length } }, s') ∧
      shown a s' =
        { ledger := (s.ledger a).hand handed
          converted := some (countMetric kept.length)
          deadLettered := some (countMetric (records.length - kept.length))
          processed := some kept.length } := by
  obtain ⟨before, prepared, same⟩ := run_prepare (a := a) mapper batch.recordsOf_eq s
  rw [← settle_eq_of_ledger_eq same] at settled
  obtain ⟨mid, ran, ⟨ledger, -⟩, converted, deadLettered⟩ :=
    run_core_of_settled batch.recordsOf_eq p.toIdentity before settled
  rw [← mapper.core] at ran
  have typed : ∀ fs ∈ kept, Typed ts fs := by
    intro fs' hfs'
    obtain ⟨fs, hfs, h⟩ := mem_converted_iff.mp ((eq_of_settle_eq_ok settled).1 ▸ hfs')
    exact typed_convertRecord declared (batch.dicts fs hfs) h
  obtain ⟨after, released, seen⟩ := @run_release p ts a data records kept mapper batch typed mid
  have grown : mid.context.metadata.recordsFailed =
      before.context.metadata.recordsFailed + handed.length := congrArg Ledger.failed ledger
  have call := Processor.process_of_ok prepared ran released
  have tally : (p.countFailed before.context mid.context).countProcessed =
      { p with tally := { p.tally with
          processed := p.tally.processed + 1
          failedRecords := p.tally.failedRecords + handed.length } } := by
    have failed : (((before.context.metadata.recordsFailed + handed.length : Nat) : Int) -
        before.context.metadata.recordsFailed) = handed.length := by omega
    simp only [Processor.countFailed, Processor.countProcessed, grown, failed]
  rw [tally] at call
  refine ⟨_, call, ?_⟩
  have last : shown a mid =
      { ledger := (s.ledger a).hand handed
        converted := some (countMetric kept.length)
        deadLettered := some (countMetric (records.length - kept.length))
        processed := mid.context.metadata.recordsProcessed } := by
    rw [← same, ← ledger, ← converted, ← deadLettered]
    rfl
  rw [last] at seen
  exact seen

theorem process_of_unsettled (mapper : IsMapper p ts) (batch : IsBatch data records) (s : Scene)
    (unsettled : settle p.toIdentity a ts s.context.pipelineName (s.route a) records =
      (.error fault, handed)) :
    ∃ mid, p.process a data s =
        (.error (p.giveUp a fault mid).1, p.countError, (p.giveUp a fault mid).2) ∧
      (p.giveUp a fault mid).2.ledger a = (s.ledger a).hand handed := by
  obtain ⟨before, prepared, same⟩ := run_prepare (a := a) mapper batch.recordsOf_eq s
  rw [← settle_eq_of_ledger_eq same] at unsettled
  obtain ⟨mid, ran, ⟨ledger, -⟩⟩ := run_core_of_unsettled batch.recordsOf_eq p.toIdentity before unsettled
  rw [← mapper.core] at ran
  refine ⟨mid, Processor.process_of_core_error prepared ran, ?_⟩
  rw [← same, ← ledger]
  exact Processor.view_giveUp (Scene.ledger a) (fun _ => rfl) fun _ _ => rfl

end Call

end FieldMapping

end RecordPipeline
