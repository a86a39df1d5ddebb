import RecordPipeline.Proofs.FieldMapping.Output
import RecordPipeline.Proofs.Processor.Sending
import RecordPipeline.Proofs.Processor.Tally
set_option autoImplicit false

namespace RecordPipeline

namespace Processor.Call

/-- By how much the call increases the number of failed records in its context. -/
def handed (c : Call) : Int := c.left.context.metadata.recordsFailed - c.scene.context.metadata.recordsFailed

def handedByReturned (calls : List Call) : Int := ((calls.filter (·.outcome.isOk)).map handed).sum

def handedByAll (calls : List Call) : Int := (calls.map handed).sum

theorem handedByReturned_cons (c : Call) (later : List Call) :
    handedByReturned (c :: later) = (if c.outcome.isOk then c.handed else 0) + handedByReturned later := by
  cases returned : c.outcome.isOk <;> simp [handedByReturned, returned]

theorem handedByAll_cons (c : Call) (later : List Call) :
    handedByAll (c :: later) = c.handed + handedByAll later := List.sum_cons

end Processor.Call

namespace FieldMapping

open Processor (Call tallyAfter)
open Value (IsDict)

/-- A call of a mapper on anything, as long as the records in it have each key once. -/
structure IsCall (ts : Targets) (c : Call) : Prop where
  mapper : IsMapper c.processor ts
  dicts : ∀ items fs, c.data = .list items → .record fs ∈ items → IsDict fs

section Step

variable {c : Call} {ts : Targets}

theorem IsCall.exists_sent (call : IsCall ts c) :
    ∃ letters, Sent c.ambient c.scene c.left letters ∧ c.handed = letters.length := by
  have sent := call.mapper.sent c.ambient c.data c.scene
  have counted : c.left.context.metadata.recordsFailed = c.scene.context.metadata.recordsFailed + _ :=
    sent.recordsFailed
  refine ⟨_, sent, ?_⟩
  rw [Call.handed, counted]
  omega

theorem IsCall.handed_nonneg (call : IsCall ts c) : 0 ≤ c.handed := by
  obtain ⟨letters, -, counted⟩ := call.exists_sent
  rw [counted]
  exact Int.natCast_nonneg _

theorem recordsFailed_of_stages {p : Processor} {a : Ambient} {data out : Value} {s before mid after : Scene}
    {outcome outcome' : Except Fault Unit}
    (prepared : (p.prepare data).run.run { s with context := p.enter a.now s.context } = (outcome, before))
    (released : (p.release out).run.run mid = (outcome', after)) :
    before.context.metadata.recordsFailed = s.context.metadata.recordsFailed ∧
      after.context.metadata.recordsFailed = mid.context.metadata.recordsFailed := by
  obtain ⟨_, run, same⟩ := Processor.prepare_passes (blind_ledger a) (fun _ _ => rfl) p data
    { s with context := p.enter a.now s.context }
  obtain ⟨_, run', same'⟩ := Processor.release_passes (blind_ledger a) (fun _ _ => rfl) p out mid
  cases prepared.symm.trans run
  cases released.symm.trans run'
  exact ⟨congrArg Ledger.failed same, congrArg Ledger.failed same'⟩

/-- The number grows with a call that returns, by all that the call hands over, and with no other
call. -/
theorem IsCall.failedRecords_entered (call : IsCall ts c) (declared : IsDict ts) (t : Tally) :
    (c.entered t).failedRecords = t.failedRecords + if c.outcome.isOk then c.handed else 0 := by
  let p : Processor := { c.processor with tally := t }
  have mapper : IsMapper p ts := ⟨call.mapper.input, call.mapper.output, call.mapper.core⟩
  cases p.course c.ambient c.data c.scene with
  | input prepared =>
    obtain ⟨outcome, -, tally⟩ := c.eq_of_made t (Processor.process_of_input_error prepared)
    rw [outcome, tally]
    exact (add_zero _).symm
  | core prepared ran =>
    obtain ⟨outcome, -, tally⟩ := c.eq_of_made t (Processor.process_of_core_error prepared ran)
    rw [outcome, tally]
    exact (add_zero _).symm
  | output prepared ran released =>
    have accepted := (Processor.told_of_release released).1
    rw [mapper.judgement_of_core declared call.dicts ran] at accepted
    cases accepted
  | returned prepared ran released =>
    obtain ⟨outcome, left, tally⟩ := c.eq_of_made t (Processor.process_of_ok prepared ran released)
    obtain ⟨before, after⟩ := recordsFailed_of_stages prepared released
    rw [outcome, tally, Call.handed, left, ← before]
    exact congrArg (fun n : Nat => t.failedRecords + ((n : Int) - _)) after.symm

end Step

section History

variable {ts : Targets} {calls : List Call}

theorem failedRecords_tallyAfter (declared : IsDict ts) (history : ∀ c ∈ calls, IsCall ts c) (t : Tally) :
    (tallyAfter t calls).failedRecords = t.failedRecords + Call.handedByReturned calls := by
  induction calls generalizing t with
  | nil => exact (add_zero _).symm
  | cons c later ih =>
    obtain ⟨first, others⟩ := List.forall_mem_cons.mp history
    rw [tallyAfter, ih others, first.failedRecords_entered declared, Call.handedByReturned_cons, add_assoc]

theorem handedByReturned_eq_iff (history : ∀ c ∈ calls, IsCall ts c) :
    Call.handedByReturned calls ≤ Call.handedByAll calls ∧
      (Call.handedByReturned calls = Call.handedByAll calls ↔
        ∀ c ∈ calls, ∀ fault, c.outcome = .error fault → c.handed = 0) := by
  induction calls with
  | nil => exact ⟨le_rfl, by simp [Call.handedByReturned, Call.handedByAll]⟩
  | cons c later ih =>
    obtain ⟨first, others⟩ := List.forall_mem_cons.mp history
    obtain ⟨least, same⟩ := ih others
    have nonneg := first.handed_nonneg
    rw [List.forall_mem_cons, ← same, Call.handedByReturned_cons, Call.handedByAll_cons]
    cases outcome : c.outcome with
    | ok out =>
      have returned : (Except.ok out : Except Fault Value).isOk = true := rfl
      simpa [returned] using least
    | error fault =>
      have raised : (Except.error fault : Except Fault Value).isOk = false := rfl
      simp only [raised, Bool.false_eq_true, if_false, Except.error.injEq, forall_eq']
      omega

/-- The number is what the calls that return hand over. It is all that the calls of the history hand
over if and only if those that raise hand nothing over. -/
theorem failed_records_counted_iff (declared : IsDict ts) (history : ∀ c ∈ calls, IsCall ts c) :
    (∀ c ∈ calls, ∃ letters, Sent c.ambient c.scene c.left letters ∧ c.handed = letters.length) ∧
      (tallyAfter {} calls).failedRecords = Call.handedByReturned calls ∧
      ((tallyAfter {} calls).failedRecords = Call.handedByAll calls ↔
        ∀ c ∈ calls, ∀ fault, c.outcome = .error fault → c.handed = 0) := by
  have counted := failedRecords_tallyAfter declared history {}
  have fresh : ({} : Tally).failedRecords = 0 := rfl
  rw [fresh, zero_add] at counted
  refine ⟨fun c member => (history c member).exists_sent, counted, ?_⟩
  rw [counted]
  exact (handedByReturned_eq_iff history).2

def wordCall (capacity : Nat) : Call :=
  { processor := processor (identity (.text "mapper-1") .null) [(.text "speed", .integer)]
    ambient := { now := .epoch, settings := .unset }
    data := .list [.record [(.text "speed", .text "x")]]
    scene := { context := { pipelineName := .text "telemetry", sink := some (Sink.failAfter capacity "full") } } }

theorem isDict_wordMapping : IsDict [(Value.text "speed", TargetType.integer)] := ⟨by decide, by decide⟩

theorem isCall_wordCall (capacity : Nat) (s : Scene) :
    IsCall [(.text "speed", .integer)] { wordCall capacity with scene := s } where
  mapper := isMapper_processor _ _ _
  dicts := by
    rintro items fs same member
    cases same
    cases List.mem_singleton.mp member
    exact ⟨by decide, by decide⟩

theorem failed_records_counted_iff_full_sink :
    let first := wordCall 1
    let second : Call := { first with scene := first.left }
    (tallyAfter {} [first, second]).failedRecords = 1 ∧ Call.handedByAll [first, second] = 2 := by
  intro first second
  have history : ∀ c ∈ [first, second], IsCall [(.text "speed", .integer)] c := by
    simpa using ⟨isCall_wordCall 1 first.scene, isCall_wordCall 1 first.left⟩
  obtain ⟨-, counted, -⟩ := failed_records_counted_iff isDict_wordMapping history
  have one : Call.handedByReturned [first, second] = 1 := by decide +kernel
  exact ⟨counted.trans one, by decide +kernel⟩

/-- A sink that raises cuts the core short after the record was handed over. -/
theorem failed_records_miss_cut_call : ¬ ∀ (ts : Targets) (calls : List Call), IsDict ts →
    (∀ c ∈ calls, IsCall ts c) → (tallyAfter {} calls).failedRecords = Call.handedByAll calls := by
  intro always
  have same := always _ [wordCall 0] isDict_wordMapping (List.forall_mem_singleton.mpr (isCall_wordCall 0 _))
  have differ : (tallyAfter {} [wordCall 0]).failedRecords ≠ Call.handedByAll [wordCall 0] := by decide +kernel
  exact differ same

end History

end FieldMapping

end RecordPipeline
