import Mathlib.Data.List.Forall2
import RecordPipeline.Proofs.FieldMapping.Process
import RecordPipeline.Proofs.Pipeline.Skipping
set_option autoImplicit false

/-!
Conservation of records by runs of field mapping processors. Every record comes out or is refused by
one of the processors that succeed. A processor that fails leaves the data as it was given, but what
it handed over before it failed stays handed over and is counted once more.
-/

namespace RecordPipeline

namespace FieldMapping

/-- What becomes of a record on its way through mappings: it comes out, or the mapping at a place
refuses it in the form it has there. -/
inductive Fate where
  | out (fs : Fields)
  | refused (place : Nat) (fs : Fields)

def Fate.later : Fate → Fate
  | .out fs => .out fs
  | .refused place fs => .refused (place + 1) fs

def fate : List Targets → Fields → Fate
  | [], fs => .out fs
  | ts :: rest, fs =>
    match convertRecord ts fs with
    | .ok fs' => (fate rest fs').later
    | .error _ => .refused 0 fs

def Fate.out? : Fate → Option Fields
  | .out fs => some fs
  | .refused _ _ => none

def Fate.refusedAt? (place : Nat) : Fate → Option Fields
  | .out _ => none
  | .refused place' fs => if place' = place then some fs else none

def out (tss : List Targets) (records : List Fields) : List Fields :=
  records.filterMap fun fs => (fate tss fs).out?

def refusedAt (tss : List Targets) (place : Nat) (records : List Fields) : List Fields :=
  records.filterMap fun fs => (fate tss fs).refusedAt? place

section Fate

variable (ts : Targets) (tss : List Targets) (records : List Fields)

theorem out_nil : out [] records = records := by
  simp [out, fate, Fate.out?]

theorem out_cons : out (ts :: tss) records = out tss (converted ts records) := by
  simp only [out, converted, List.filterMap_filterMap]
  refine List.filterMap_congr fun fs _ => ?_
  simp only [fate]
  cases convertRecord ts fs with
  | error fault => rfl
  | ok fs' =>
    simp only [Except.toOption, Option.bind_some]
    cases fate tss fs' <;> rfl

theorem refusedAt_zero : refusedAt (ts :: tss) 0 records = refused ts records := by
  simp only [refusedAt, refused, ← List.filterMap_eq_filter]
  refine List.filterMap_congr fun fs _ => ?_
  cases h : convertRecord ts fs with
  | error fault => simp [fate, h, Fate.refusedAt?, Option.guard, Except.isOk, Except.toBool]
  | ok fs' =>
    cases later : fate tss fs' <;>
      simp [fate, h, later, Fate.later, Fate.refusedAt?, Option.guard, Except.isOk, Except.toBool]

theorem refusedAt_succ (place : Nat) :
    refusedAt (ts :: tss) (place + 1) records = refusedAt tss place (converted ts records) := by
  simp only [refusedAt, converted, List.filterMap_filterMap]
  refine List.filterMap_congr fun fs _ => ?_
  simp only [fate]
  cases convertRecord ts fs with
  | error fault => rfl
  | ok fs' =>
    simp only [Except.toOption, Option.bind_some]
    cases fate tss fs' <;> simp [Fate.later, Fate.refusedAt?]

end Fate

end FieldMapping

namespace Pipeline

open FieldMapping (Targets Fields IsMapper IsBatch converted refused settle out refusedAt)
open Value (IsDict)

def Call.handedOver (c : Call) (a : Ambient) : Nat := (c.context a).metadata.recordsFailed

section Call

variable {a : Ambient} {g : Progress} {c : Call} {g' : Progress} {ts : Targets}
  {records : List Fields}

theorem Went.handed {handed : List FailureRecord} (first : Went a g c g')
    (after : (c.left a).2.2.ledger a = (c.scene.ledger a).hand handed) :
    c.handedOver a = handed.length ∧
      (c.context a).failureRecords = if a.settings.deadLetterEnabled then handed else [] := by
  have fresh : c.scene.context = g.context.child c.processor.name := first.child
  have failed : c.handedOver a = c.scene.context.metadata.recordsFailed + handed.length :=
    congrArg Ledger.failed after
  have kept : (c.context a).failureRecords = c.scene.context.failureRecords ++
      if a.settings.deadLetterEnabled then handed else [] := congrArg Ledger.kept after
  rw [failed, kept, fresh]
  exact ⟨Nat.zero_add _, List.nil_append _⟩

/-- The call of a mapper on records converts the one part and hands the other over, or it leaves the
data as it is and hands over the first of those it refuses. -/
theorem Went.settled (first : Went a g c g') (mapper : IsMapper c.processor ts) (declared : IsDict ts)
    (given : g.data = .list (records.map .record)) (dicts : ∀ fs ∈ records, IsDict fs) :
    ∃ handed, c.handedOver a = handed.length ∧
      (c.context a).failureRecords = (if a.settings.deadLetterEnabled then handed else []) ∧
      ((c.report a).isSuccess = true ∧
          g'.data = .list ((converted ts records).map .record) ∧
          handed = (refused ts records).map (fun fs =>
            c.processor.letter g.context.pipelineName a.now (.record fs)) ∨
        (c.report a).isSuccess = false ∧ g'.data = g.data ∧
          handed <+: (refused ts records).map fun fs =>
            c.processor.letter g.context.pipelineName a.now (.record fs)) := by
  have batch : IsBatch c.data records := by
    rw [first.given, given]
    exact .list dicts
  have name : c.scene.context.pipelineName = g.context.pipelineName := by
    rw [first.child]
    rfl
  rcases settled : settle c.processor.toIdentity a ts c.scene.context.pipelineName
    (c.scene.route a) records with ⟨fault | kept, handed⟩
  · obtain ⟨mid, call, after⟩ := FieldMapping.process_of_unsettled mapper batch c.scene settled
    have outcome : c.outcome a = .error _ := congrArg Prod.fst call
    have scene : (c.left a).2.2 = _ := congrArg (fun left => left.2.2) call
    obtain ⟨failed, letters⟩ := first.handed (by rw [scene]; exact after)
    have failure : (c.report a).isSuccess = false := Call.isSuccess_report_of_error outcome
    have stayed : g'.data = g.data := first.data_of_error outcome
    have part := @FieldMapping.settle_snd_prefix c.processor.toIdentity a ts
      c.scene.context.pipelineName (c.scene.route a) records
    rw [settled, name] at part
    exact ⟨handed, failed, letters, .inr ⟨failure, stayed, part⟩⟩
  · obtain ⟨s', call, seen⟩ :=
      FieldMapping.process_of_settled mapper declared batch c.scene settled
    obtain ⟨rfl, rfl⟩ := FieldMapping.eq_of_settle_eq_ok settled
    have form : FieldMapping.sameForm c.data (converted ts records) =
        .list ((converted ts records).map .record) := by
      rw [first.given, given]
      rfl
    rw [form] at call
    have outcome : c.outcome a = .ok _ := congrArg Prod.fst call
    have scene : (c.left a).2.2 = _ := congrArg (fun left => left.2.2) call
    obtain ⟨failed, letters⟩ := first.handed
      (by rw [scene]; exact congrArg FieldMapping.Shown.ledger seen)
    have success : (c.report a).isSuccess = true :=
      Call.isSuccess_report_iff.mpr ⟨_, _, outcome, rfl⟩
    have moved : g'.data = .list ((converted ts records).map .record) := first.data_of_ok outcome
    rw [name] at failed letters
    exact ⟨_, failed, letters, .inl ⟨success, moved, rfl⟩⟩

end Call

def succeeded (a : Ambient) (legs : List (Call × Targets)) : List (Call × Targets) :=
  legs.filter fun leg => (leg.1.report a).isSuccess

/-- How many records the calls handed over that failed. -/
def strays (a : Ambient) (legs : List (Call × Targets)) : Nat :=
  ((legs.filter fun leg => !(leg.1.report a).isSuccess).map fun leg => leg.1.handedOver a).sum

def HandsOverFirst (a : Ambient) (pipelineName : Value) (c : Call) (ts : Targets) : Prop :=
  ∃ input handed, c.data = .list (input.map .record) ∧ c.handedOver a = handed.length ∧
    (c.context a).failureRecords = (if a.settings.deadLetterEnabled then handed else []) ∧
    handed <+: (refused ts input).map fun fs =>
      c.processor.letter pipelineName a.now (.record fs)

/-- Where the records of a batch are after calls of mappers. -/
structure Conserved (a : Ambient) (pipelineName : Value) (records : List Fields)
    (legs : List (Call × Targets)) (last : Value) : Prop where
  output : last = .list ((out ((succeeded a legs).map Prod.snd) records).map .record)
  handedOver : ∀ place leg, (succeeded a legs)[place]? = some leg →
    (leg.1.context a).failureRecords = if a.settings.deadLetterEnabled then
      (refusedAt ((succeeded a legs).map Prod.snd) place records).map fun fs =>
        leg.1.processor.letter pipelineName a.now (.record fs) else []
  count : records.length + strays a legs =
    (out ((succeeded a legs).map Prod.snd) records).length +
      (legs.map fun leg => leg.1.handedOver a).sum
  stray : ∀ leg ∈ legs, (leg.1.report a).isSuccess = false → HandsOverFirst a pipelineName leg.1 leg.2

section Legs

variable {a : Ambient} {c : Call} {ts : Targets} {name : Value} {records : List Fields}
  {legs : List (Call × Targets)} {last : Value}

theorem Conserved.nil : Conserved a name records [] (.list (records.map .record)) := by
  have all := FieldMapping.out_nil records
  constructor
  case output => simp [succeeded, all]
  case handedOver => simp [succeeded]
  case count => simp [succeeded, strays, all]
  case stray => simp

theorem Conserved.cons_success (success : (c.report a).isSuccess = true)
    (failed : c.handedOver a = (refused ts records).length)
    (letters : (c.context a).failureRecords = if a.settings.deadLetterEnabled then
      (refused ts records).map fun fs => c.processor.letter name a.now (.record fs) else [])
    (rest : Conserved a name (converted ts records) legs last) :
    Conserved a name records ((c, ts) :: legs) last := by
  have head : succeeded a ((c, ts) :: legs) = (c, ts) :: succeeded a legs :=
    List.filter_cons_of_pos success
  have same : strays a ((c, ts) :: legs) = strays a legs := by simp [strays, success]
  constructor
  case output => rw [head, List.map_cons, FieldMapping.out_cons, rest.output]
  case handedOver =>
    intro place leg found
    rw [head] at found ⊢
    cases place with
    | zero =>
      obtain rfl : (c, ts) = leg := by simpa using found
      rw [List.map_cons, FieldMapping.refusedAt_zero]
      exact letters
    | succ place =>
      rw [List.map_cons, FieldMapping.refusedAt_succ]
      exact rest.handedOver place leg (by simpa using found)
  case count =>
    have parts := FieldMapping.length_converted_add_length_refused ts records
    have count := rest.count
    simp only [head, same, List.map_cons, FieldMapping.out_cons, List.sum_cons, failed]
    omega
  case stray =>
    refine List.forall_mem_cons.mpr ⟨fun failure => ?_, rest.stray⟩
    rw [success] at failure
    cases failure

theorem Conserved.cons_failure (failure : (c.report a).isSuccess = false)
    (part : HandsOverFirst a name c ts) (rest : Conserved a name records legs last) :
    Conserved a name records ((c, ts) :: legs) last := by
  have head : succeeded a ((c, ts) :: legs) = succeeded a legs := by simp [succeeded, failure]
  have more : strays a ((c, ts) :: legs) = c.handedOver a + strays a legs := by
    simp [strays, failure]
  constructor
  case output => rw [head, rest.output]
  case handedOver =>
    intro place leg found
    rw [head] at found ⊢
    exact rest.handedOver place leg found
  case count =>
    have count := rest.count
    simp only [head, more, List.map_cons, List.sum_cons]
    omega
  case stray => exact List.forall_mem_cons.mpr ⟨fun _ => part, rest.stray⟩

end Legs

theorem Runs.conserved {a : Ambient} {g g' : Progress} {cs : List Call} {tss : List Targets}
    {records : List Fields} (h : Runs a g cs g')
    (mappers : List.Forall₂ (fun c ts => IsMapper c.processor ts ∧ IsDict ts) cs tss)
    (given : g.data = .list (records.map .record)) (dicts : ∀ fs ∈ records, IsDict fs) :
    Conserved a g.context.pipelineName records (cs.zip tss) g'.data := by
  induction h generalizing tss records with
  | nil g =>
    rw [given]
    exact .nil
  | @cons g g₁ g' c cs first _ ih =>
    cases mappers with
    | @cons _ ts _ tss mapper others =>
      have name : g₁.context.pipelineName = g.context.pipelineName := by
        rw [first.context]
        rfl
      obtain ⟨handed, failed, letters, split | skipped⟩ :=
        first.settled mapper.1 mapper.2 given dicts
      · obtain ⟨success, moved, rfl⟩ := split
        have dicts' : ∀ fs' ∈ converted ts records, IsDict fs' := by
          intro fs' hfs'
          obtain ⟨fs, hfs, h⟩ := FieldMapping.mem_converted_iff.mp hfs'
          exact FieldMapping.isDict_convertRecord (dicts fs hfs) h
        have rest := ih others moved dicts'
        rw [name] at rest
        exact .cons_success success (by rw [failed, List.length_map]) letters rest
      · obtain ⟨failure, stayed, part⟩ := skipped
        have rest := ih others (stayed.trans given) dicts
        rw [name] at rest
        have input : c.data = .list (records.map .record) := first.given.trans given
        exact .cons_failure failure ⟨records, handed, input, failed, letters, part⟩ rest

theorem sum_map_zip {cs : List Call} {tss : List Targets} (same : cs.length = tss.length)
    (f : Call → Nat) : ((cs.zip tss).map fun leg => f leg.1).sum = (cs.map f).sum := by
  have firsts : (cs.zip tss).map Prod.fst = cs := List.map_fst_zip same.le
  conv_rhs => rw [← firsts, List.map_map]
  rfl

/-- A run of mappers that returns loses no record. Each comes out, or the dead letters of one call that
succeeds hold it; counts differ by the records that failed calls handed over. -/
theorem run_conserves_records {p p' : Pipeline} {a : Ambient} {t t' : Trail} {r : PipelineResult}
    {records : List Fields} {tss : List Targets}
    (mappers : List.Forall₂ (fun e ts => IsMapper e.2 ts ∧ IsDict ts) p.processors tss)
    (dicts : ∀ fs ∈ records, IsDict fs)
    (returned : p.run a (some (.list (records.map .record))) t = (.ok r, p', t')) :
    let calls := p.callsOn a (.list (records.map .record)) records.length t
    r.totalItems + strays a (calls.zip tss) = r.processedItems + r.failedItems ∧
      Conserved a (.text p.name) records (calls.zip tss) r.output ∧
      r.failureRecords = calls.flatMap (fun c => (c.context a).failureRecords) ∧
      calls.map (fun c => (c.plugin, c.processor)) = p.processors := by
  intro calls
  have sized : (Value.list (records.map .record)).length = .ok records.length := by
    simp [Value.length]
  obtain ⟨procs', g, steps, result⟩ := exists_steps_of_run sized returned
  obtain ⟨runs, called⟩ := runs_of_steps steps
  have called' : calls.map (fun c => (c.plugin, c.processor)) = p.processors := called
  have mappers' : List.Forall₂ (fun c ts => IsMapper c.processor ts ∧ IsDict ts) calls tss := by
    rw [← called'] at mappers
    exact List.forall₂_map_left_iff.mp mappers
  have conserved : Conserved a (.text p.name) records (calls.zip tss) g.data :=
    runs.conserved mappers' rfl dicts
  have output := conserved.output
  have count := conserved.count
  obtain ⟨m, size, processed⟩ := result.processedItems
  have total : r.totalItems = records.length := by
    rw [result.totalItems, runs.totalItems_eq]
    rfl
  have gathered : g.context.metadata.recordsFailed = 0 + (calls.map fun c => c.handedOver a).sum :=
    runs.recordsFailed_eq
  have failed : r.failedItems = (calls.map fun c => c.handedOver a).sum := by
    rw [result.failedItems, gathered, Nat.zero_add]
  have letters : r.failureRecords = calls.flatMap fun c => (c.context a).failureRecords := by
    rw [result.failureRecords, runs.failureRecords_eq]
    rfl
  have items : r.processedItems = (out ((succeeded a (calls.zip tss)).map Prod.snd) records).length := by
    rw [output] at size
    simp only [Value.length, List.length_map] at size
    cases size
    exact processed
  rw [sum_map_zip mappers'.length_eq fun c => c.handedOver a] at count
  refine ⟨?_, ?_, letters, called'⟩
  · rw [total, items, failed]
    exact_mod_cast count
  · rw [result.output]
    exact conserved

theorem run_conserves_word :
    let mapper := FieldMapping.processor (FieldMapping.identity (.text "mapper") .null)
      [(.text "speed", .integer)]
    let p : Pipeline :=
      { name := "telemetry", id := "0", activator := { enforce := true }
        processors := [(.text "mapper", mapper)] }
    let a : Ambient := { now := .epoch, settings := .unset }
    let records : List Fields := [[(.text "speed", .text "4")], [(.text "speed", .text "x")]]
    let legs := (p.callsOn a (.list (records.map .record)) 2 {}).zip [[(.text "speed", .integer)]]
    ∃ r p' t', p.run a (some (.list (records.map .record))) {} = (.ok r, p', t') ∧
      Conserved a (.text "telemetry") records legs r.output := by
  have declared : IsDict [(Value.text "speed", TargetType.integer)] := ⟨by decide, by decide⟩
  have dict (s : String) : IsDict [(Value.text "speed", Value.text s)] :=
    @IsDict.of_names Value _ ["speed"] (by decide) rfl
  have dicts : ∀ fs ∈ ([[(.text "speed", .text "4")], [(.text "speed", .text "x")]] : List Fields),
      IsDict fs := by simp [dict]
  obtain ⟨⟨r, p', t'⟩, call⟩ : ∃ left : PipelineResult × Pipeline × Trail,
      Pipeline.run
        { name := "telemetry", id := "0", activator := { enforce := true }
          processors := [(.text "mapper", FieldMapping.processor
            (FieldMapping.identity (.text "mapper") .null) [(.text "speed", .integer)])] }
        { now := .epoch, settings := .unset }
        (some (.list [.record [(.text "speed", .text "4")], .record [(.text "speed", .text "x")]])) {} =
      (.ok left.1, left.2.1, left.2.2) := ⟨(_, _, _), Prod.ext rfl (Prod.ext rfl rfl)⟩
  have mappers : List.Forall₂ (fun e ts => IsMapper e.2 ts ∧ IsDict ts)
      [(Value.text "mapper", FieldMapping.processor
        (FieldMapping.identity (.text "mapper") .null) [(.text "speed", .integer)])]
      [[(.text "speed", .integer)]] := .cons ⟨⟨rfl, rfl, rfl⟩, declared⟩ .nil
  exact ⟨r, p', t', call, (run_conserves_records mappers dicts call).2.1⟩

/-- A sink that takes nothing makes a mapper fail on the record that it refuses: the record stays in the
output, and is counted and kept as a dead letter all the same. -/
theorem run_counts_stray_twice :
    let mapper := FieldMapping.processor (FieldMapping.identity (.text "mapper") .null)
      [(.text "speed", .integer)]
    let p : Pipeline :=
      { name := "telemetry", id := "0", activator := { enforce := true }
        sink := some (.failAfter 0 "full")
        processors := [(.text "mapper", mapper)] }
    let record := Value.record [(.text "speed", .text "x")]
    ∃ r, (p.run { now := .epoch, settings := .unset } (some (.list [record])) {}).1 = .ok r ∧
      r.totalItems ≠ r.processedItems + r.failedItems ∧ r.output = .list [record] ∧
      r.failureRecords.map (fun letter => letter.failedData) = [record] :=
  ⟨_, rfl, by decide, rfl, rfl⟩

end Pipeline

end RecordPipeline
