import RecordPipeline.Proofs.FieldMapping.Process
import RecordPipeline.Proofs.Outcome
set_option autoImplicit false

/-!
The output contract of the field mapping processor. Converters and the contract are made from one
mapping, and what a converter returns holds the type that the contract asks for under the same
field, so a mapper never fails at its own output.
-/

namespace RecordPipeline

namespace Fault

/-- A fault that reads as the failure of an output contract. -/
def FailsOutput : Fault → Prop
  | .processor message .. => "Output validation failed".toList <+: message.toList
  | _ => False

theorem isRaw_ofRecord (fault : RecordFault) : (ofRecord fault).IsRaw := by
  cases fault <;> trivial

theorem not_failsOutput_of_head {family rest name : String} {inContext : Bool} {cause : Option Fault}
    (other : family.toList.head? ≠ some 'O') (full : family.toList ≠ []) :
    ¬ (Fault.processor (family ++ rest) name inContext cause).FailsOutput := by
  rintro ⟨tail, same⟩
  have heads := congrArg List.head? same
  rw [String.toList_append, List.head?_append_of_ne_nil _ full] at heads
  exact other heads.symm

end Fault

theorem Processor.not_failsOutput_giveUp {fault : Fault} (raw : fault.IsRaw) (p : Processor)
    (a : Ambient) (s : Scene) : ¬ (p.giveUp a fault s).1.FailsOutput := by
  rcases p.giveUp_cases a fault s with ⟨own, -⟩ | ⟨unwritable, -, given⟩ | ⟨-, -, given⟩
  · exact absurd raw own
  · rw [given]
    exact id
  · rw [given, String.append_assoc, String.append_assoc]
    exact Fault.not_failsOutput_of_head (by decide) (by decide)

namespace FieldMapping

open Value (IsDict)

section Mapping

def Named (mapping : Fields) : Prop :=
  ∀ f ∈ mapping, ∃ name t, f.2 = .text name ∧ TargetType.ofName? name = some t

/-- Targets that stand under the fields of a mapping with the types that it names. -/
def Resolves (mapping : Fields) (ts : Targets) : Prop :=
  List.Forall₂ (fun f t => t.1 = f.1 ∧ TargetType.ofValue f.2 = .ok t.2) mapping ts

theorem exists_resolve_of_named {mapping : Fields} (named : Named mapping) :
    ∃ ts, resolve mapping = .ok ts ∧ Resolves mapping ts := by
  induction mapping with
  | nil => exact ⟨[], rfl, .nil⟩
  | cons f rest ih =>
    obtain ⟨field, declared⟩ := f
    obtain ⟨⟨name, t, rfl, known⟩, others⟩ := List.forall_mem_cons.mp named
    obtain ⟨ts, resolved, same⟩ := ih others
    have found : TargetType.ofValue (.text name) = .ok t := by simp only [TargetType.ofValue, known]
    exact ⟨(field, t) :: ts, by simp [resolve, found, resolved, bind, Except.bind, pure, Except.pure],
      .cons ⟨rfl, found⟩ same⟩

theorem resolve_eq_ok_iff {mapping : Fields} {ts : Targets} : resolve mapping = .ok ts ↔ Resolves mapping ts := by
  constructor
  · intro resolved
    induction mapping generalizing ts with
    | nil =>
      cases resolved
      exact .nil
    | cons f rest ih =>
      obtain ⟨t, first, others⟩ := exists_of_bind_eq_ok resolved
      obtain ⟨ts', later, made⟩ := exists_of_bind_eq_ok others
      cases made
      exact .cons ⟨rfl, first⟩ (ih later)
  · intro same
    induction same with
    | nil => rfl
    | @cons f t rest ts first _ ih =>
      obtain ⟨field, declared⟩ := f
      obtain ⟨field', t⟩ := t
      obtain ⟨rfl, found⟩ := first
      simp only at found ih
      simp only [resolve, found, ih, bind, Except.bind, pure, Except.pure]

theorem Resolves.map_fst {mapping : Fields} {ts : Targets} (h : Resolves mapping ts) :
    ts.map Prod.fst = mapping.map Prod.fst := by
  induction h with
  | nil => rfl
  | cons first _ ih => rw [List.map_cons, List.map_cons, first.1, ih]

end Mapping

theorem isRaw_of_settle {i : Identity} {a : Ambient} {ts : Targets} {pipelineName : Value}
    {route : Route} {records : List Fields} {fault : Fault}
    (ended : (settle i a ts pipelineName route records).1 = .error fault) :
    fault.IsRaw ∨ ∃ rs r, (route.after rs).answer r = some fault := by
  induction records generalizing route with
  | nil => cases ended
  | cons fs rest ih =>
    simp only [settle] at ended
    split at ended
    · rcases later : settle i a ts pipelineName route rest with ⟨fault' | kept, handed⟩
      · rw [later] at ended
        cases ended
        exact ih (congrArg Prod.fst later)
      · rw [later] at ended
        cases ended
    · cases ended
      exact .inl trivial
    · split at ended
      · cases ended
        exact .inl (Fault.isRaw_ofRecord _)
      · rename_i r _
        split at ended
        · rename_i answer
          cases ended
          exact .inr ⟨[], r, by rwa [Route.after_nil]⟩
        · obtain raw | ⟨rs, r', answer⟩ := ih ended
          · exact .inl raw
          · exact .inr ⟨r :: rs, r', by rwa [Route.after_append] at answer⟩

theorem outcome_of_core {i : Identity} {ts : Targets} {a : Ambient} {data : Value} {s mid : Scene}
    {outcome : Except Fault Value} (ran : (core i ts a data).run.run s = (outcome, mid)) :
    (∃ fault, recordsOf data = .error fault ∧ outcome = .error (.value fault)) ∨
      ∃ records, recordsOf data = .ok records ∧ outcome =
        (settle i a ts s.context.pipelineName (s.route a) records).1.map (sameForm data) := by
  cases found : recordsOf data with
  | error fault =>
    simp only [core, found, Work.run_throw] at ran
    cases ran
    exact .inl ⟨fault, rfl, rfl⟩
  | ok records =>
    refine .inr ⟨records, rfl, ?_⟩
    rcases settled : settle i a ts s.context.pipelineName (s.route a) records
      with ⟨fault | kept, handed⟩
    · obtain ⟨mid', run, -⟩ := run_core_of_unsettled found i s settled
      cases ran.symm.trans run
      rfl
    · obtain ⟨mid', run, -⟩ := run_core_of_settled found i s settled
      cases ran.symm.trans run
      rfl

theorem exists_answer_of_core {i : Identity} {ts : Targets} {a : Ambient} {data : Value} {s mid : Scene}
    {fault : Fault} (own : ¬ fault.IsRaw) (ran : (core i ts a data).run.run s = (.error fault, mid)) :
    ∃ rs r, ((s.route a).after rs).answer r = some fault := by
  obtain ⟨_, _, raised⟩ | ⟨records, found, raised⟩ := outcome_of_core ran
  · cases raised
    exact absurd trivial own
  · rcases settled : (settle i a ts s.context.pipelineName (s.route a) records).1 with first | kept
    · rw [settled] at raised
      cases raised
      exact (isRaw_of_settle settled).resolve_left own
    · rw [settled] at raised
      cases raised

/-- What a mapper returns for data is accepted by its output contract and typed in each record, and
no call of it fails at that contract: a fault that reads so is an answer of the sink. -/
structure MeetsOutput (p : Processor) (ts : Targets) (a : Ambient) (data : Value) : Prop where
  accepted : ∀ before out mid, (p.core a data).run.run before = (.ok out, mid) →
    p.judgement .output p.output out = .ok ()
  typed : ∀ before items mid, (p.core a data).run.run before = (.ok (.list items), mid) →
    ∀ item ∈ items, ∃ fs, item = .record fs ∧ Typed ts fs
  raises : ∀ s fault, (p.process a data s).1 = .error fault → fault.FailsOutput →
    ∃ rs r, ((s.route a).after rs).answer r = some fault

section Mapper

variable {p : Processor} {ts : Targets} {a : Ambient} {data out : Value} {before mid : Scene}

theorem typed_of_core (declared : IsDict ts)
    (dicts : ∀ items fs, data = .list items → .record fs ∈ items → IsDict fs)
    (ran : (core p.toIdentity ts a data).run.run before = (.ok out, mid)) :
    (∃ kept : List Fields, out = .list (kept.map .record) ∧ ∀ fs ∈ kept, Typed ts fs) ∨
      ∃ columns rows, out = .table columns rows := by
  obtain ⟨_, _, failed⟩ | ⟨records, found, returned⟩ := outcome_of_core ran
  · cases failed
  · rcases settled : settle p.toIdentity a ts before.context.pipelineName (before.route a) records
      with ⟨fault | kept, handed⟩
    · rw [settled] at returned
      cases returned
    · rw [settled] at returned
      cases returned
      obtain rfl | ⟨columns, rows, rfl⟩ := eq_of_recordsOf_eq_ok found
      · refine .inl ⟨kept, rfl, fun fs' hfs' => ?_⟩
        obtain ⟨fs, hfs, h⟩ := mem_converted_iff.mp ((eq_of_settle_eq_ok settled).1 ▸ hfs')
        exact typed_convertRecord declared (dicts _ fs rfl (List.mem_map_of_mem hfs)) h
      · exact .inr ⟨_, _, rfl⟩

theorem IsMapper.judgement_of_core (mapper : IsMapper p ts) (declared : IsDict ts)
    (dicts : ∀ items fs, data = .list items → .record fs ∈ items → IsDict fs)
    (ran : (p.core a data).run.run before = (.ok out, mid)) :
    p.judgement .output p.output out = .ok () := by
  rw [mapper.core] at ran
  rw [mapper.output]
  obtain ⟨kept, rfl, typed⟩ | ⟨columns, rows, rfl⟩ := typed_of_core declared dicts ran
  · exact judgement_output_list typed
  · exact judgement_output_table ts columns rows

theorem IsMapper.not_failsOutput_of_input (mapper : IsMapper p ts) {fault : Fault}
    (refused : p.judgement .input p.input data = .error fault) (last : Scene) :
    ¬ (p.giveUp a fault last).1.FailsOutput := by
  rw [mapper.input, Processor.judgement_inWork] at refused
  split at refused
  · rename_i fault _
    cases refused
    have raw : (Fault.value fault).IsRaw := trivial
    exact Processor.not_failsOutput_giveUp raw p a last
  · split at refused
    · cases refused
    · cases refused
      rw [Processor.giveUp_of_not_isRaw id, String.append_assoc]
      exact Fault.not_failsOutput_of_head (by decide) (by decide)

theorem IsMapper.meetsOutput (mapper : IsMapper p ts) (declared : IsDict ts) (a : Ambient)
    (dicts : ∀ items fs, data = .list items → .record fs ∈ items → IsDict fs) :
    MeetsOutput p ts a data where
  accepted _ _ _ ran := mapper.judgement_of_core declared dicts ran
  typed before items mid ran := by
    rw [mapper.core] at ran
    obtain ⟨kept, same, typed⟩ | ⟨_, _, other⟩ := typed_of_core declared dicts ran
    · cases same
      rintro item member
      obtain ⟨fs, hfs, rfl⟩ := List.mem_map.mp member
      exact ⟨fs, rfl, typed fs hfs⟩
    · cases other
  raises s fault failed reads := by
    obtain ⟨first, last, raises, rfl⟩ :=
      Processor.exists_raises_of_process (blind_ledger a) (fun _ _ => rfl) failed
    cases raises with
    | input refused => exact absurd reads (mapper.not_failsOutput_of_input refused last)
    | output ran refused =>
      rw [mapper.judgement_of_core declared dicts ran] at refused
      cases refused
    | @core before mid _ same ran =>
      have own : ¬ first.IsRaw := fun raw => Processor.not_failsOutput_giveUp raw p a last reads
      have route : before.route a = s.route a := congrArg Ledger.route same
      rw [mapper.core] at ran
      rw [Processor.giveUp_of_not_isRaw own, ← route]
      exact exists_answer_of_core own ran

end Mapper

/-- A mapping whose type names are known makes a mapper, and every mapper made with it meets its own
output contract, on any data and in any scene. -/
theorem process_meets_output {settings : Settings} {source : Source} {mapping : Fields}
    (given : declared settings source = .ok mapping) (dict : IsDict mapping) (named : Named mapping) :
    ∃ ts, targets settings source = .ok ts ∧ Resolves mapping ts ∧
      ∀ p, IsMapper p ts → ∀ a data,
        (∀ items fs, data = .list items → .record fs ∈ items → IsDict fs) →
        MeetsOutput p ts a data := by
  obtain ⟨ts, resolved, same⟩ := exists_resolve_of_named named
  refine ⟨ts, ?_, same, fun p mapper a data dicts => ?_⟩
  · simp only [targets, given, bind, Except.bind, resolved, Except.mapError]
  · exact mapper.meetsOutput (dict.of_map_fst_eq same.map_fst) a dicts

theorem process_meets_output_padded_alias :
    ∃ ts, targets .unset (.fields [(.text "n", .text " INT ")]) = .ok ts ∧
      ts = [(.text "n", .integer)] ∧ ∀ a,
      MeetsOutput (processor (identity (.text "mapper") .null) ts) ts a
        (.list [.record [(.text "n", .text "5")]]) := by
  have known : TargetType.ofName? " INT " = some .integer := by decide +kernel
  have named : Named [(.text "n", .text " INT ")] :=
    List.forall_mem_singleton.mpr ⟨_, _, rfl, known⟩
  obtain ⟨ts, made, same, meets⟩ :=
    @process_meets_output .unset (.fields [(.text "n", .text " INT ")]) _ rfl
      ⟨by decide, by decide⟩ named
  refine ⟨ts, made, ?_, fun a => meets _ ⟨rfl, rfl, rfl⟩ a _ ?_⟩
  · cases same with
    | @cons _ head _ later first others =>
      obtain ⟨field, t⟩ := head
      obtain ⟨key, found⟩ := first
      simp only [TargetType.ofValue, known] at found
      cases others
      cases key
      cases found
      rfl
  · rintro items fs same' member
    cases same'
    cases List.mem_singleton.mp member
    exact ⟨by decide, by decide⟩

end FieldMapping

end RecordPipeline
