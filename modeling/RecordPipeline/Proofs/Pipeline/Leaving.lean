import RecordPipeline.Proofs.Pipeline.Stopping
set_option autoImplicit false

/-!
The two shapes of the errors that leave a run. The failure of a processor that ends a strict run is
passed on under the plugin's name, without a report; any other fault is the cause of an error that
reports the result. Either way the result that is left has failed, and its last error tells the
fault.
-/

namespace RecordPipeline

namespace Pipeline

/-- Faults that end a run and are not the failure of a processor in strict mode. -/
inductive Breaks (p : Pipeline) (a : Ambient) (t : Trail) : Option Value → Fault → Prop
  | missing : Breaks p a t none (.raised .value (.ok "Must provide records"))
  | uncounted {data : Value} {fault : ValueFault} (unsized : data.length = .error fault) :
    Breaks p a t (some data) (.value fault)
  | unnamed {data : Value} {n : Nat} {before : List Call} {c : Call} {fault : Fault}
    {unwritten : ValueFault} (sized : data.length = .ok n)
    (calls : p.callsOn a data n t = before ++ [c]) (failed : c.output a = .error fault)
    (unwritable : c.plugin.plain = .error unwritten) : Breaks p a t (some data) (.value unwritten)
  | unsized {data : Value} {n : Nat} {g : Progress} {fault : ValueFault} (mode : p.mode = .continue)
    (sized : data.length = .ok n) (runs : Runs a (p.start a data n t) (p.callsOn a data n t) g)
    (unsized : g.data.length = .error fault) : Breaks p a t (some data) (.value fault)

/-- Errors that leave a run with the result that is left, and the message of what ended the work. -/
inductive Leaves (p : Pipeline) (a : Ambient) (t : Trail) (r : PipelineResult) :
    Option Value → PipelineError → String → Prop
  | aborted {data : Value} {n : Nat} {before : List Call} {c : Call} {fault : Fault} {id : String}
    (mode : p.mode = .strict) (sized : data.length = .ok n)
    (calls : p.callsOn a data n t = before ++ [c]) (failed : c.output a = .error fault)
    (written : c.plugin.plain = .ok id) :
    Leaves p a t r (some data) (p.failureUnder id fault) (id ++ " failed: " ++ fault.shown)
  | wrapped {records : Option Value} {fault : Fault} (breaks : Breaks p a t records fault) :
    Leaves p a t r records
      { message := "Pipeline " ++ p.name ++ " failed"
        pipelineName := p.name
        report := some r
        cause := fault }
      fault.shown

/-- What a run leaves that raises an error. -/
structure Failed (p : Pipeline) (a : Ambient) (t : Trail) (records : Option Value)
    (error : PipelineError) (r : PipelineResult) : Prop where
  status : r.status = "failed"
  endTime : r.endTime = some a.later
  lastError : ∃ message, r.errors.getLast? = some ("Pipeline execution failed: " ++ message) ∧
    Leaves p a t r records error message

section Run

variable {p p' : Pipeline} {a : Ambient} {records : Option Value} {t t' : Trail}
  {outcome : Except PipelineError PipelineResult}

theorem lastError_failedResult (a : Ambient) (r : PipelineResult) (exit : Exit) :
    (failedResult a r exit).errors.getLast? =
      some ("Pipeline execution failed: " ++ exit.message) := by
  simp [failedResult, PipelineResult.addError]

theorem failed_of_leaves {r : PipelineResult} (exit : Exit)
    (leaves : Leaves p a t (failedResult a r exit) records (p.errorOf (failedResult a r exit) exit)
      exit.message) :
    Failed p a t records (p.errorOf (failedResult a r exit) exit) (failedResult a r exit) :=
  ⟨rfl, rfl, exit.message, lastError_failedResult a r exit, leaves⟩

theorem failed_of_broken {r : PipelineResult} {fault : Fault} (breaks : Breaks p a t records fault) :
    Failed p a t records (p.errorOf (failedResult a r (.broken fault)) (.broken fault))
      (failedResult a r (.broken fault)) :=
  failed_of_leaves (.broken fault) (.wrapped breaks)

theorem failed_of_stop {data : Value} {n : Nat} {before : List Call} {c : Call} {fault : Fault}
    {r : PipelineResult} {exit : Exit} (sized : data.length = .ok n)
    (calls : p.callsOn a data n t = before ++ [c]) (failed : c.output a = .error fault)
    (stops : Stops p c.plugin fault exit) :
    Failed p a t (some data) (p.errorOf (failedResult a r exit) exit) (failedResult a r exit) := by
  refine failed_of_leaves exit ?_
  cases stops with
  | aborted mode written => exact .aborted mode sized calls failed written
  | unnamed unwritable => exact .wrapped (.unnamed sized calls failed unwritable)

theorem failed_of_ended {data : Value} {n : Nat} (sized : data.length = .ok n)
    (ended : Ended p a (p.start a data n t) outcome p' t') :
    ∃ r, p'.result = some r ∧ (outcome = .ok r ∧ r.status = "completed" ∨
      ∃ error, outcome = .error error ∧ Failed p a t (some data) error r) := by
  cases ended with
  | returned steps sized' => exact ⟨_, rfl, .inl ⟨rfl, rfl⟩⟩
  | stopped steps =>
    obtain ⟨before, c, fault, calls, -, failed, stops⟩ := exists_stop_of_steps steps
    exact ⟨_, rfl, .inr ⟨_, rfl, failed_of_stop sized calls failed stops⟩⟩
  | @unsized procs g fault steps unsized =>
    have mode : p.mode = .continue := by
      cases mode : p.mode with
      | «continue» => rfl
      | strict =>
        obtain ⟨m, sized'⟩ := exists_length_of_strict mode steps ⟨n, sized⟩
        cases unsized.symm.trans sized'
    have runs := (runs_of_steps steps).1
    exact ⟨_, rfl, .inr ⟨_, rfl, failed_of_broken (.unsized mode sized runs unsized)⟩⟩

theorem aborted_of_ended {data : Value} {n : Nat} (mode : p.mode = .strict)
    (ended : Ended p a (p.start a data n t) outcome p' t') {c : Call}
    (called : c ∈ p.callsOn a data n t) {fault : Fault} {id : String}
    (failed : c.output a = .error fault) (written : c.plugin.plain = .ok id) :
    outcome = .error (p.failureUnder id fault) := by
  obtain ⟨procs, g, exit, left, stops⟩ := exists_exit_of_failed mode called failed
  cases ended with
  | returned steps sized' => cases left.symm.trans steps
  | unsized steps unsized => cases left.symm.trans steps
  | stopped steps =>
    cases left.symm.trans steps
    cases stops with
    | aborted mode written' =>
      cases written.symm.trans written'
      rfl
    | unnamed unwritable => cases written.symm.trans unwritable

/-- A run returns a completed result or raises an error of one of the two shapes, and keeps the
result. In strict mode the failure of a call is what it raises. -/
theorem run_leaves (p : Pipeline) (a : Ambient) (records : Option Value) (t : Trail) :
    ∃ outcome r p' t', p.run a records t = (outcome, p', t') ∧ p'.result = some r ∧
      (outcome = .ok r ∧ r.status = "completed" ∨
        ∃ error, outcome = .error error ∧ Failed p a t records error r) ∧
      ∀ data n, records = some data → data.length = .ok n → p.mode = .strict →
        ∀ c ∈ p.callsOn a data n t, ∀ fault id, c.output a = .error fault → c.plugin.plain = .ok id →
          outcome = .error (p.failureUnder id fault) := by
  cases records with
  | none => exact ⟨_, _, _, _, rfl, rfl, .inr ⟨_, rfl, failed_of_broken .missing⟩, by simp⟩
  | some data =>
    cases sized : data.length with
    | error fault =>
      let r := failedResult a { pipelineId := p.runId a, startTime := a.now } (.broken (.value fault))
      obtain ⟨p', t', left, result⟩ : ∃ p' t', p.run a (some data) t =
          (.error (p.errorOf r (.broken (.value fault))), p', t') ∧ p'.result = some r := by
        simp only [run, execute, sized]
        exact ⟨_, _, rfl, rfl⟩
      refine ⟨_, r, p', t', left, result, .inr ⟨_, rfl, failed_of_broken (.uncounted sized)⟩, ?_⟩
      intro data' n same sized'
      cases same
      cases sized.symm.trans sized'
    | ok n =>
      rcases run : p.run a (some data) t with ⟨outcome, p', t'⟩
      have ended := ended_of_run sized run
      obtain ⟨r, left, ends⟩ := failed_of_ended sized ended
      refine ⟨outcome, r, p', t', rfl, left, ends, ?_⟩
      intro data' n' same sized' mode c called fault id failed written
      cases same
      cases sized.symm.trans sized'
      exact aborted_of_ended mode ended called failed written

end Run

end Pipeline

end RecordPipeline
