import RecordPipeline.Proofs.Failure.Build
import RecordPipeline.Proofs.FieldMapping.Record
import RecordPipeline.Proofs.Processor.Parts
set_option autoImplicit false

/-!
Conversion of all records of a batch. What it returns and which records it hands over depend on the
scene only through the pipeline's name and the route that refused records take.
-/

namespace RecordPipeline

namespace Identity

def draft (i : Identity) (pipelineName payload : Value) : Failure.Draft :=
  { pluginId := i.pluginId, pluginName := .text i.name, pipelineName, failedData := payload }

/-- The failure record of a payload that this plugin gives up on. -/
def letter (i : Identity) (pipelineName : Value) (now : Moment) (payload : Value) : FailureRecord :=
  { pluginId := i.pluginId
    pluginName := .text i.name
    pipelineName
    failedData := payload
    timestamp := Timestamp.format now }

variable {i : Identity} {a : Ambient} {payload : Value} (s : Scene)

theorem run_failRecord : (i.failRecord a payload).run.run s =
    match FailureRecord.build (i.draft s.context.pipelineName payload) a.now with
    | .ok r => (Work.answered ((s.route a).answer r), Work.handedOver a r s)
    | .error fault => (.error (Fault.ofRecord fault), s) := by
  have read : Work.context.run.run s = (.ok s.context, s) := rfl
  rw [failRecord, Work.run_bind, read]
  show ((match FailureRecord.build (i.draft s.context.pipelineName payload) a.now with
    | .ok r => Work.deadLetter a r
    | .error fault => throw (Fault.ofRecord fault) : Work Unit)).run.run s = _
  cases FailureRecord.build (i.draft s.context.pipelineName payload) a.now with
  | ok r => exact Work.run_deadLetter a r s
  | error fault => rfl

theorem run_failRecord_of_built {r : FailureRecord}
    (built : FailureRecord.build (i.draft s.context.pipelineName payload) a.now = .ok r) :
    (i.failRecord a payload).run.run s =
      (Work.answered ((s.route a).answer r), Work.handedOver a r s) := by
  rw [run_failRecord, built]

theorem run_failRecord_of_unbuilt {fault : RecordFault}
    (unbuilt : FailureRecord.build (i.draft s.context.pipelineName payload) a.now = .error fault) :
    (i.failRecord a payload).run.run s = (.error (Fault.ofRecord fault), s) := by
  rw [run_failRecord, unbuilt]

end Identity

namespace FieldMapping

open Value (IsDict)

/-- What comes of records that are converted one after the other: the converted ones or the fault that
ends the work, and the records handed over until then. -/
def settle (i : Identity) (a : Ambient) (ts : Targets) (pipelineName : Value) :
    Route → List Fields → Except Fault (List Fields) × List FailureRecord
  | _, [] => (.ok [], [])
  | route, fs :: rest =>
    match convertRecord ts fs with
    | .ok converted =>
      let (outcome, handed) := settle i a ts pipelineName route rest
      (outcome.map (converted :: ·), handed)
    | .error (.value fault) => (.error (.value fault), [])
    | .error (.refused _) =>
      match FailureRecord.build (i.draft pipelineName (.record fs)) a.now with
      | .error fault => (.error (Fault.ofRecord fault), [])
      | .ok r =>
        match route.answer r with
        | some fault => (.error fault, [r])
        | none =>
          let (outcome, handed) := settle i a ts pipelineName (route.after [r]) rest
          (outcome, r :: handed)

theorem run_convertAll (i : Identity) (a : Ambient) (ts : Targets) (records : List Fields)
    (s : Scene) :
    ∃ s', (convertAll i a ts records).run.run s =
        ((settle i a ts s.context.pipelineName (s.route a) records).1, s') ∧
      HandsOver a s s' (settle i a ts s.context.pipelineName (s.route a) records).2 := by
  induction records generalizing s with
  | nil => exact ⟨s, rfl, .refl a s⟩
  | cons fs rest ih =>
    cases converted : convertRecord ts fs with
    | ok fs' =>
      obtain ⟨s', run, handed⟩ := ih s
      refine ⟨s', ?_, by simpa only [settle, converted] using handed⟩
      simp only [convertAll, settle, converted, Work.run_bind, run]
      cases (settle i a ts s.context.pipelineName (s.route a) rest).1 <;> rfl
    | error refusal =>
      cases refusal with
      | value fault =>
        refine ⟨s, ?_, by simpa only [settle, converted] using HandsOver.refl a s⟩
        simp only [convertAll, settle, converted]
        rfl
      | refused e =>
        let noted := s.note (failedEntry i e)
        have start : HandsOver a s noted [] := .note (i.quiet_logger _ _) a s
        have route : noted.route a = s.route a := by simpa [Route.after_nil] using start.route
        have name : noted.context.pipelineName = s.context.pipelineName := start.pipelineName
        cases built : FailureRecord.build (i.draft s.context.pipelineName (.record fs)) a.now with
        | error fault =>
          have failed := Identity.run_failRecord_of_unbuilt noted (by rw [name]; exact built)
          refine ⟨noted, ?_, by simpa only [settle, converted, built] using start⟩
          simp only [convertAll, settle, converted, built, Work.run_bind, Work.run_note]
          rw [failed]
        | ok r =>
          have failed := Identity.run_failRecord_of_built noted (by rw [name]; exact built)
          have one : HandsOver a s (Work.handedOver a r noted) [r] :=
            start.trans (Work.handsOver_handedOver a r noted)
          rw [route] at failed
          cases answer : (s.route a).answer r with
          | some fault =>
            refine ⟨_, ?_, by simpa only [settle, converted, built, answer] using one⟩
            simp only [convertAll, settle, converted, built, answer, Work.run_bind, Work.run_note]
            rw [failed, answer]
            rfl
          | none =>
            obtain ⟨s', run, handed⟩ := ih (Work.handedOver a r noted)
            rw [one.pipelineName, one.route] at run handed
            refine ⟨s', ?_, by simpa only [settle, converted, built, answer] using one.cons handed⟩
            simp only [convertAll, settle, converted, built, answer, Work.run_bind, Work.run_note]
            rw [failed, answer]
            exact run

def converted (ts : Targets) (records : List Fields) : List Fields :=
  records.filterMap fun fs => (convertRecord ts fs).toOption

def refused (ts : Targets) (records : List Fields) : List Fields :=
  records.filter fun fs => !(convertRecord ts fs).isOk

section Cons

variable {ts : Targets} {fs fs' : Fields} {fault : ConversionFault} (rest : List Fields)

theorem converted_cons_ok (h : convertRecord ts fs = .ok fs') :
    converted ts (fs :: rest) = fs' :: converted ts rest := by
  simp [converted, h, Except.toOption]

theorem converted_cons_error (h : convertRecord ts fs = .error fault) :
    converted ts (fs :: rest) = converted ts rest := by
  simp [converted, h, Except.toOption]

theorem refused_cons_ok (h : convertRecord ts fs = .ok fs') :
    refused ts (fs :: rest) = refused ts rest := by
  simp [refused, h, Except.isOk, Except.toBool]

theorem refused_cons_error (h : convertRecord ts fs = .error fault) :
    refused ts (fs :: rest) = fs :: refused ts rest := by
  simp [refused, h, Except.isOk, Except.toBool]

end Cons

theorem mem_converted_iff {ts : Targets} {records : List Fields} {fs' : Fields} :
    fs' ∈ converted ts records ↔ ∃ fs ∈ records, convertRecord ts fs = .ok fs' := by
  simp only [converted, List.mem_filterMap]
  refine exists_congr fun fs => and_congr_right fun _ => ?_
  cases convertRecord ts fs <;> simp [Except.toOption]

theorem length_converted_add_length_refused (ts : Targets) (records : List Fields) :
    (converted ts records).length + (refused ts records).length = records.length := by
  induction records with
  | nil => rfl
  | cons fs rest ih =>
    cases h : convertRecord ts fs with
    | ok fs' =>
      rw [converted_cons_ok rest h, refused_cons_ok rest h, List.length_cons, List.length_cons]
      omega
    | error fault =>
      rw [converted_cons_error rest h, refused_cons_error rest h, List.length_cons, List.length_cons]
      omega

section Settled

variable {i : Identity} {a : Ambient} {ts : Targets} {pipelineName : Value} {route : Route}
  {records : List Fields}

theorem eq_of_settle_eq_ok {kept : List Fields} {handed : List FailureRecord}
    (done : settle i a ts pipelineName route records = (.ok kept, handed)) :
    kept = converted ts records ∧
      handed = (refused ts records).map fun fs => i.letter pipelineName a.now (.record fs) := by
  induction records generalizing route kept handed with
  | nil =>
    cases done
    exact ⟨rfl, rfl⟩
  | cons fs rest ih =>
    cases h : convertRecord ts fs with
    | ok fs' =>
      rw [converted_cons_ok rest h, refused_cons_ok rest h]
      rcases later : settle i a ts pipelineName route rest with ⟨_ | kept', handed'⟩
      · simp [settle, h, later, Except.map] at done
      · obtain ⟨rfl, rfl⟩ : fs' :: kept' = kept ∧ handed' = handed := by
          simpa [settle, h, later, Except.map] using done
        obtain ⟨rfl, rfl⟩ := ih later
        exact ⟨rfl, rfl⟩
    | error refusal =>
      rw [converted_cons_error rest h, refused_cons_error rest h]
      cases refusal with
      | value fault => simp [settle, h] at done
      | refused e =>
        cases built : FailureRecord.build (i.draft pipelineName (.record fs)) a.now with
        | error fault => simp [settle, h, built] at done
        | ok r =>
          cases answer : route.answer r with
          | some fault => simp [settle, h, built, answer] at done
          | none =>
            rcases later : settle i a ts pipelineName (route.after [r]) rest with ⟨outcome, handed'⟩
            obtain ⟨rfl, rfl⟩ : outcome = .ok kept ∧ r :: handed' = handed := by
              simpa [settle, h, built, answer, later] using done
            obtain ⟨rfl, rfl⟩ := ih later
            obtain rfl := FailureRecord.eq_stamped_of_build built
            exact ⟨rfl, rfl⟩

/-- Whatever ends the work, it hands over the first of the refused records, each as it came. -/
theorem settle_snd_prefix : (settle i a ts pipelineName route records).2 <+:
    (refused ts records).map fun fs => i.letter pipelineName a.now (.record fs) := by
  induction records generalizing route with
  | nil => exact List.prefix_rfl
  | cons fs rest ih =>
    cases h : convertRecord ts fs with
    | ok fs' =>
      rw [refused_cons_ok rest h]
      simpa only [settle, h] using @ih route
    | error refusal =>
      rw [refused_cons_error rest h, List.map_cons]
      cases refusal with
      | value fault => simp [settle, h]
      | refused e =>
        cases built : FailureRecord.build (i.draft pipelineName (.record fs)) a.now with
        | error fault => simp [settle, h, built]
        | ok r =>
          obtain rfl : r = i.letter pipelineName a.now (.record fs) :=
            FailureRecord.eq_stamped_of_build built
          cases answer : route.answer (i.letter pipelineName a.now (.record fs)) with
          | some fault => simp [settle, h, built, answer]
          | none => simpa [settle, h, built, answer] using ih

theorem exists_settle_eq_ok_iff_of_silent (pluginId : Failure.IsName i.pluginId)
    (name : Failure.IsName (.text i.name)) (pipeline : Failure.IsName pipelineName)
    (year : 1000 ≤ a.now.year)
    (silent : ∀ rs, ∀ fs ∈ refused ts records,
      (route.after rs).answer (i.letter pipelineName a.now (.record fs)) = none) :
    (∃ kept, (settle i a ts pipelineName route records).1 = .ok kept) ↔
      ∀ fs ∈ records, ∀ fault, convertRecord ts fs ≠ .error (.value fault) := by
  induction records generalizing route with
  | nil => simp [settle]
  | cons fs rest ih =>
    cases h : convertRecord ts fs with
    | ok fs' =>
      rw [refused_cons_ok rest h] at silent
      rw [List.forall_mem_cons, ← ih silent]
      simp only [settle, h]
      cases (settle i a ts pipelineName route rest).1 <;> simp [Except.map]
    | error refusal =>
      rw [List.forall_mem_cons]
      cases refusal with
      | value fault => simp [settle, h]
      | refused e =>
        rw [refused_cons_error rest h] at silent
        have sound : (i.draft pipelineName (.record fs)).validate = .ok [] :=
          Failure.Draft.validate_eq_nil pluginId name pipeline (by simp [Identity.draft])
        have built := FailureRecord.build_eq_ok sound year
        have free := silent [] fs List.mem_cons_self
        rw [Route.after_nil] at free
        have later : ∀ rs, ∀ fs' ∈ refused ts rest,
            ((route.after [(i.draft pipelineName (.record fs)).stamped a.now]).after rs).answer
              (i.letter pipelineName a.now (.record fs')) = none := by
          intro rs fs' hfs'
          rw [Route.after_append]
          exact silent _ fs' (List.mem_cons_of_mem _ hfs')
        have answer : route.answer ((i.draft pipelineName (.record fs)).stamped a.now) = none := free
        simp only [settle, h, built, answer]
        rw [ih later]
        simp

theorem exists_settle_eq_ok_iff (pluginId : Failure.IsName i.pluginId)
    (name : Failure.IsName (.text i.name)) (pipeline : Failure.IsName pipelineName)
    (year : 1000 ≤ a.now.year) (unheard : route.sink = none) :
    (∃ kept, (settle i a ts pipelineName route records).1 = .ok kept) ↔
      ∀ fs ∈ records, ∀ fault, convertRecord ts fs ≠ .error (.value fault) :=
  exists_settle_eq_ok_iff_of_silent pluginId name pipeline year fun rs _ _ =>
    Route.answer_of_sink_eq_none (by rw [Route.sink_after, unheard]) _

end Settled

end FieldMapping

end RecordPipeline
