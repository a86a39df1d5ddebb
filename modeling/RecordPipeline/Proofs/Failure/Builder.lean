import RecordPipeline.Failure.Builder
import RecordPipeline.Proofs.Failure.Violations
set_option autoImplicit false

namespace RecordPipeline

namespace Failure

@[simp] theorem Draft.get_default (part : Part) : ({} : Draft).get part = .null := by cases part <;> rfl

theorem Draft.ext_get {d e : Draft} (same : ∀ part, d.get part = e.get part) : d = e := by
  obtain ⟨pluginId, pluginName, pipelineName, failedData⟩ := d
  cases same .pluginId
  cases same .pluginName
  cases same .pipelineName
  cases same .failedData
  rfl

end Failure

namespace Builder

open Failure (Draft Follows Part Refuses Reports Violation)

def Call.value? (part : Part) : Call → Option Value
  | .set other v => if other = part then some v else none
  | .validate | .build _ => none

/-- The value that a part was last set to, or null. -/
def lastSet (calls : List Call) (part : Part) : Value :=
  (calls.filterMap (Call.value? part)).getLast?.getD .null

def collected (calls : List Call) : Draft :=
  { pluginId := lastSet calls .pluginId
    pluginName := lastSet calls .pluginName
    pipelineName := lastSet calls .pipelineName
    failedData := lastSet calls .failedData }

section Runs

variable {d : Draft}

theorem get_after (d : Draft) (call : Call) (part : Part) :
    (after d call).get part = (call.value? part).getD (d.get part) := by
  cases call with
  | set other v =>
    by_cases same : other = part
    · subst same
      simp [after, Call.value?]
    · simp [after, Call.value?, same, Draft.get_set_of_ne d v (Ne.symm same)]
  | validate => rfl
  | build => rfl

theorem get_run (d : Draft) (calls : List Call) (part : Part) :
    (run d calls).1.get part = (calls.filterMap (Call.value? part)).getLast?.getD (d.get part) := by
  induction calls generalizing d with
  | nil => rfl
  | cons call calls ih =>
    have step : (run d (call :: calls)).1 = (run (after d call) calls).1 := rfl
    rw [step, ih, get_after]
    cases first : call.value? part <;>
      cases later : (calls.filterMap (Call.value? part)).getLast? <;>
        simp [first, later, List.getLast?_cons]

theorem run_default (calls : List Call) : (run {} calls).1 = collected calls := by
  refine Draft.ext_get fun part => ?_
  rw [get_run, Draft.get_default]
  cases part <;> rfl

theorem length_run (d : Draft) (calls : List Call) : (run d calls).2.length = calls.length := by
  induction calls generalizing d with
  | nil => rfl
  | cons call calls ih => exact congrArg (· + 1) (ih (after d call))

theorem run_append (d : Draft) (calls others : List Call) :
    (run d (calls ++ others)).2 = (run d calls).2 ++ (run (run d calls).1 others).2 := by
  induction calls generalizing d with
  | nil => rfl
  | cons call calls ih => exact congrArg (answer d call :: ·) (ih (after d call))

theorem answer_run (calls others : List Call) (call : Call) :
    (run {} (calls ++ call :: others)).2[calls.length]? = some (answer (collected calls) call) := by
  rw [run_append, List.getElem?_append_right (Nat.le_of_eq (length_run {} calls)), length_run,
    Nat.sub_self, run_default]
  rfl

end Runs

section Agreement

def AreWritten (calls : List Call) : Prop :=
  ∀ part v, .set part v ∈ calls → part.field.IsIdentity → ∃ s, v.plain = .ok s

theorem exists_plain_lastSet {calls : List Call} (written : AreWritten calls) {part : Part}
    (identity : part.field.IsIdentity) : ∃ s, (lastSet calls part).plain = .ok s := by
  unfold lastSet
  cases last : (calls.filterMap (Call.value? part)).getLast? with
  | none => exact ⟨_, rfl⟩
  | some v =>
    obtain ⟨call, called, value⟩ := List.mem_filterMap.mp (List.mem_of_getLast? last)
    cases call with
    | set other w =>
      obtain ⟨rfl, same⟩ := Option.ite_none_right_eq_some.mp value
      cases same
      exact written _ _ called identity
    | validate => cases value
    | build => cases value

theorem isWritten_collected {calls : List Call} (written : AreWritten calls) : (collected calls).IsWritten := by
  intro field v member identity
  simp only [Draft.fields, collected, List.mem_cons, Prod.mk.injEq, List.not_mem_nil, or_false] at member
  rcases member with ⟨rfl, rfl⟩ | ⟨rfl, rfl⟩ | ⟨rfl, rfl⟩ | ⟨rfl, rfl⟩
  · exact exists_plain_lastSet written identity
  · exact exists_plain_lastSet written identity
  · exact exists_plain_lastSet written identity
  · exact absurd identity (by decide)

/-- Whatever was called before, a check reports exactly the violations of what the parts were last
set to, a build from year 1000 on is refused for these, and a record that is made without a builder
for these and the one of its timestamp. -/
theorem check_build_make_agree (before : List Call) (written : AreWritten before) :
    ∃ vs : List Violation,
      (∀ ws, Reports (collected before).fields ws ↔ ws = vs) ∧
      (∀ after, (run {} (before ++ .validate :: after)).2[before.length]? = some (.checked (.ok vs))) ∧
      (∀ now after, 1000 ≤ now.year →
        ∃ outcome, (run {} (before ++ .build now :: after)).2[before.length]? = some (.built outcome) ∧
          Follows vs (fun r => r = (collected before).stamped now) outcome) ∧
      ∀ timestamp : Value, (timestamp = .null ∨ ∃ s, timestamp = .text s) →
        ∃ late, Reports [(.timestamp, timestamp)] late ∧
          Follows (vs ++ late) (fun r => ∃ s, timestamp = .text s ∧ r = .ofDraft (collected before) s)
            (FailureRecord.make (collected before) timestamp) := by
  obtain ⟨vs, found, reports⟩ := (collected before).exists_validate (isWritten_collected written)
  refine ⟨vs, fun ws => ⟨fun others => others.unique reports, ?_⟩, fun after => ?_, fun now after year => ?_,
    fun timestamp known => FailureRecord.exists_follows_make found known⟩
  · rintro rfl
    exact reports
  · rw [answer_run, answer, found]
  · exact ⟨_, answer_run before after (.build now), FailureRecord.follows_build found year⟩

theorem check_build_make_agree_reset :
    let before : List Call := [.set .pluginId (.text "mapper-1"), .set .pluginName (.text " \t"), .validate,
      .set .failedData (.bool true), .set .pluginId .null]
    AreWritten before ∧ 1000 ≤ Moment.epoch.year ∧
      ∃ fault, (run {} (before ++ [.build .epoch])).2[before.length]? = some (.built (.error fault)) ∧
        fault = .missing [.missing .pluginId, .empty .pluginName, .missing .pipelineName] ∧
        fault.message = "plugin_id cannot be None; plugin_name cannot be empty; pipeline_name cannot be None" := by
  intro before
  have written : AreWritten before := by
    intro part v called identity
    simp only [before, List.mem_cons, Call.set.injEq, List.not_mem_nil, or_false, reduceCtorEq, false_or] at called
    rcases called with ⟨rfl, rfl⟩ | ⟨rfl, rfl⟩ | ⟨rfl, rfl⟩ | ⟨rfl, rfl⟩
    · exact ⟨_, rfl⟩
    · exact ⟨_, rfl⟩
    · exact absurd identity (by decide)
    · exact ⟨_, rfl⟩
  have year : 1000 ≤ Moment.epoch.year := by decide
  obtain ⟨vs, -, checked, built, -⟩ := check_build_make_agree before written
  have found : some (Answer.checked (.ok vs)) = some (.checked (.ok
      [.missing .pluginId, .empty .pluginName, .missing .pipelineName])) := (checked []).symm.trans rfl
  cases found
  obtain ⟨outcome, answered, follows⟩ := built .epoch [] year
  cases (follows.refused _).mpr (.missing rfl)
  exact ⟨written, year, _, answered, rfl, by decide⟩

end Agreement

end Builder

end RecordPipeline
