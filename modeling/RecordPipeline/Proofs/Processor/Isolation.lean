import RecordPipeline.Proofs.FieldMapping.Process
import RecordPipeline.Proofs.Processor.Parts
set_option autoImplicit false

/-!
Work that is isolated from the past. It adds to the trail without reading it, so what it comes to is
settled by its context. A sink must not read the trail either: its answer to a letter is the one it
would give first.
-/

namespace RecordPipeline

/-- A sink whose answer to a record depends on that record alone. -/
def Sink.Memoryless (s : Sink) : Prop := ∀ earlier r, s.respond earlier r = s.respond [] r

namespace Trail

instance : Append Trail where
  append t added :=
    { journal := t.journal ++ added.journal, offered := t.offered ++ added.offered }

theorem append_def (t added : Trail) : t ++ added =
    { journal := t.journal ++ added.journal, offered := t.offered ++ added.offered } := rfl

theorem append_empty (t : Trail) : t ++ ({} : Trail) = t := by
  simp [append_def]

theorem append_assoc (t added added' : Trail) : t ++ added ++ added' = t ++ (added ++ added') := by
  simp [append_def]

theorem note_eq (t : Trail) (e : Entry) : t.note e = t ++ ({ journal := [e] } : Trail) := by
  simp [append_def, note]

theorem noteAll_eq (t : Trail) (es : List Entry) : t.noteAll es = t ++ ({ journal := es } : Trail) := by
  simp [append_def, noteAll]

end Trail

namespace Context

def Forgetful (c : Context) : Prop := ∀ sink, c.sink = some sink → sink.Memoryless

theorem Forgetful.of_sink_eq {c c' : Context} (h : c.Forgetful) (same : c'.sink = c.sink) :
    c'.Forgetful := fun sink found => h sink (same ▸ found)

end Context

/-- What is done in a scene and, from one context, comes to one outcome and one context, and adds
the same to every trail. -/
def Isolated {α : Type} (f : Scene → α × Scene) (c : Context) : Prop :=
  ∃ outcome c' added, c'.Forgetful ∧
    ∀ t, f { trail := t, context := c } = (outcome, { trail := t ++ added, context := c' })

namespace Work

def Isolates {α : Type} (x : Work α) : Prop := ∀ c : Context, c.Forgetful → Isolated x.run.run c

namespace Isolates

variable {α β : Type} {x : Work α} {f : α → Work β}

theorem bind (hx : Isolates x) (hf : ∀ v, Isolates (f v)) : Isolates (x >>= f) := by
  intro c forgetful
  obtain ⟨outcome, c', added, forgetful', first⟩ := hx c forgetful
  cases outcome with
  | error fault => exact ⟨.error fault, c', added, forgetful', fun t => by rw [run_bind, first t]⟩
  | ok v =>
    obtain ⟨outcome', c'', added', forgetful'', second⟩ := hf v c' forgetful'
    refine ⟨outcome', c'', added ++ added', forgetful'', fun t => ?_⟩
    rw [run_bind, first t, ← Trail.append_assoc]
    exact second (t ++ added)

theorem of_outcome {outcome : Except Fault α} (run : ∀ s, x.run.run s = (outcome, s)) : Isolates x :=
  fun c forgetful => ⟨outcome, c, {}, forgetful, fun t => by rw [run, Trail.append_empty]⟩

theorem change {g : Context → Context} (sink : ∀ c, (g c).sink = c.sink) :
    Isolates (Work.change g) :=
  fun c forgetful => ⟨.ok (), g c, {}, forgetful.of_sink_eq (sink c), fun t => by
    rw [run_change, Trail.append_empty]⟩

theorem of_note {x : Work Unit} {e : Entry} {g : Context → Context}
    (run : ∀ s, x.run.run s = (.ok (), { s with context := g s.context }.note e))
    (sink : ∀ c, (g c).sink = c.sink) : Isolates x :=
  fun c forgetful => ⟨.ok (), g c, { journal := [e] }, forgetful.of_sink_eq (sink c), fun t => by
    rw [run, ← Trail.note_eq, Scene.note]⟩

theorem composes : Composes @Isolates where
  pure v := of_outcome (run_pure v)
  throw fault := of_outcome (run_throw fault)
  bind := bind
  note {e} _ := of_note (g := id) (run_note e) fun _ => rfl
  addError m := of_note (g := fun c => c.addError m) (run_addError m) fun _ => rfl
  addWarning m := of_note (g := fun c => c.addWarning m) (run_addWarning m) fun _ => rfl
  metric _ _ := change fun _ => rfl
  recordsIn _ := change fun _ => rfl
  recordsProcessed _ := change fun _ => rfl

end Isolates

end Work

namespace Identity

theorem answer_of_forgetful {c : Context} (forgetful : c.Forgetful) (a : Ambient) (r : FailureRecord)
    (t : Trail) : (Scene.route { trail := t, context := c } a).answer r =
      (Scene.route { context := c } a).answer r := by
  cases found : c.sink with
  | none => simp [Route.answer, Scene.route, found]
  | some sink => simp [Route.answer, Scene.route, found, forgetful sink found t.offered r]

theorem failRecord_isolates (i : Identity) (a : Ambient) (payload : Value) :
    Work.Isolates (i.failRecord a payload) := by
  intro c forgetful
  cases built : FailureRecord.build (i.draft c.pipelineName payload) a.now with
  | error fault =>
    refine ⟨.error (Fault.ofRecord fault), c, {}, forgetful, fun t => ?_⟩
    rw [i.run_failRecord_of_unbuilt { trail := t, context := c } built, Trail.append_empty]
  | ok r =>
    let answer := (Scene.route { context := c } a).answer r
    by_cases on : a.settings.deadLetterEnabled = true
    · refine ⟨Work.answered answer, c.countFailure.keep r,
        { journal := [Work.keptEntry r], offered := if c.sink.isSome then [r] else [] },
        forgetful.of_sink_eq rfl, fun t => ?_⟩
      rw [i.run_failRecord_of_built { trail := t, context := c } built, answer_of_forgetful forgetful]
      simp only [Work.handedOver, on, if_true]
      rfl
    · refine ⟨Work.answered answer, c.countFailure, { journal := [Work.droppedEntry r] },
        forgetful.of_sink_eq rfl, fun t => ?_⟩
      rw [i.run_failRecord_of_built { trail := t, context := c } built, answer_of_forgetful forgetful,
        ← Trail.note_eq]
      simp only [Work.handedOver, on]
      rfl

end Identity

namespace Processor

def fresh (p : Processor) : Processor := { p with tally := {} }

variable {p q : Processor} {a : Ambient}

theorem isolated_giveUp (p : Processor) (a : Ambient) (fault : Fault) {c : Context}
    (forgetful : c.Forgetful) : Isolated (p.giveUp a fault) c := by
  by_cases raw : fault.IsRaw
  · cases told : fault.message with
    | error unwritable =>
      refine ⟨.value unwritable, leave a.later false c, {}, forgetful.of_sink_eq rfl, fun t => ?_⟩
      rw [giveUp_of_untold told, Trail.append_empty]
    | ok text =>
      let message := "Processing failed in " ++ p.name ++ ": " ++ fault.shown
      refine ⟨.processor message p.name true (some fault), (leave a.later false c).addError message,
        { journal := [.of Scene.contextLogger .error message] }, forgetful.of_sink_eq rfl, fun t => ?_⟩
      rw [giveUp_of_isRaw raw ⟨text, told⟩, ← Trail.note_eq]
      rfl
  · refine ⟨fault, leave a.later false c, {}, forgetful.of_sink_eq rfl, fun t => ?_⟩
    rw [giveUp_of_not_isRaw raw, Trail.append_empty]

def called (p : Processor) (a : Ambient) (data : Value) (s : Scene) : Except Fault Value × Scene :=
  ((p.process a data s).1, (p.process a data s).2.2)

theorem isolated_called (core : ∀ data, Work.Isolates (p.core a data)) (data : Value) {c : Context}
    (forgetful : c.Forgetful) : Isolated (p.called a data) c := by
  have entered : (p.enter a.now c).Forgetful := forgetful.of_sink_eq rfl
  obtain ⟨outcome, c₁, added₁, forgetful₁, prepared⟩ :=
    Work.Isolates.composes.prepare p data _ entered
  cases outcome with
  | error fault =>
    obtain ⟨e, c₂, added₂, forgetful₂, given⟩ := p.isolated_giveUp a fault forgetful₁
    refine ⟨.error e, c₂, added₁ ++ added₂, forgetful₂, fun t => ?_⟩
    simp only [called, process_of_input_error (s := { trail := t, context := c }) (prepared t), given,
      Trail.append_assoc]
  | ok =>
    obtain ⟨outcome, c₂, added₂, forgetful₂, ran⟩ := core data c₁ forgetful₁
    cases outcome with
    | error fault =>
      obtain ⟨e, c₃, added₃, forgetful₃, given⟩ := p.isolated_giveUp a fault forgetful₂
      refine ⟨.error e, c₃, added₁ ++ (added₂ ++ added₃), forgetful₃, fun t => ?_⟩
      have call := process_of_core_error (s := { trail := t, context := c }) (prepared t) (ran _)
      simp only [called, call, given, Trail.append_assoc]
    | ok out =>
      obtain ⟨outcome, c₃, added₃, forgetful₃, released⟩ :=
        Work.Isolates.composes.release p out _ forgetful₂
      cases outcome with
      | error fault =>
        obtain ⟨e, c₄, added₄, forgetful₄, given⟩ := p.isolated_giveUp a fault forgetful₃
        refine ⟨.error e, c₄, added₁ ++ (added₂ ++ (added₃ ++ added₄)), forgetful₄, fun t => ?_⟩
        have call :=
          process_of_output_error (s := { trail := t, context := c }) (prepared t) (ran _) (released _)
        simp only [called, call, given, Trail.append_assoc]
      | ok =>
        let last := leave a.later true c₃
        refine ⟨.ok out, last, added₁ ++ (added₂ ++ (added₃ ++ { journal := [p.completedEntry last] })),
          forgetful₃.of_sink_eq rfl, fun t => ?_⟩
        have call := process_of_ok (s := { trail := t, context := c }) (prepared t) (ran _) (released _)
        simp only [called, call]
        rw [← Trail.append_assoc, ← Trail.append_assoc, ← Trail.append_assoc, ← Trail.note_eq]
        rfl

/-- What earlier calls left in a processor has no part in the next one. -/
theorem process_of_fresh_eq (same : q.fresh = p.fresh) (a : Ambient) (data : Value) (s : Scene) :
    ∃ q', q.process a data s = ((p.called a data s).1, q', (p.called a data s).2) ∧
      q'.fresh = p.fresh := by
  -- the two differ in the tally only, which no stage of a call reads
  obtain ⟨tally, rfl⟩ : ∃ tally, q = { p with tally } := by
    cases p
    cases q
    cases same
    exact ⟨_, rfl⟩
  let q : Processor := { p with tally }
  rcases prepared : (p.prepare data).run.run { s with context := p.enter a.now s.context }
    with ⟨fault | ⟨⟩, before⟩
  · have call := process_of_input_error (p := q) prepared
    refine ⟨q.countError, call.trans ?_, rfl⟩
    rw [called, process_of_input_error prepared]
    rfl
  · rcases ran : (p.core a data).run.run before with ⟨fault | out, mid⟩
    · have call := process_of_core_error (p := q) prepared ran
      refine ⟨q.countError, call.trans ?_, rfl⟩
      rw [called, process_of_core_error prepared ran]
      rfl
    · rcases released : (p.release out).run.run mid with ⟨fault | ⟨⟩, after⟩
      · have call := process_of_output_error (p := q) prepared ran released
        refine ⟨(q.countFailed before.context mid.context).countError, call.trans ?_, rfl⟩
        rw [called, process_of_output_error prepared ran released]
        rfl
      · have call := process_of_ok (p := q) prepared ran released
        refine ⟨(q.countFailed before.context mid.context).countProcessed, call.trans ?_, rfl⟩
        rw [called, process_of_ok prepared ran released]
        rfl

end Processor

theorem FieldMapping.IsMapper.isolates {p : Processor} {ts : Targets} (mapper : IsMapper p ts)
    (a : Ambient) (data : Value) : Work.Isolates (p.core a data) := by
  rw [mapper.core]
  exact core_composes Work.Isolates.composes (p.failRecord_isolates a) ts data

end RecordPipeline
