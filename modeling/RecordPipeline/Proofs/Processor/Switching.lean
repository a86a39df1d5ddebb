import RecordPipeline.Proofs.FieldMapping.Process
import RecordPipeline.Proofs.Processor.Parts
set_option autoImplicit false

namespace RecordPipeline

def Ambient.routing (a : Ambient) (on : Bool) : Ambient :=
  { a with settings := { a.settings with deadLetterEnabled := on } }

def Sink.Silent (s : Sink) : Prop := ∀ earlier r, s.respond earlier r = none

theorem Sink.silent_collect : Sink.collect.Silent := fun _ _ => rfl

def Trail.quiet (t : Trail) : List Entry := t.journal.filter fun e => e.logger ≠ Work.deadLetterLogger

theorem Trail.quiet_noteAll (t : Trail) (es : List Entry) :
    (t.noteAll es).quiet = t.quiet ++ es.filter fun e => e.logger ≠ Work.deadLetterLogger :=
  List.filter_append ..

theorem Trail.quiet_note (t : Trail) (e : Entry) :
    (t.note e).quiet = t.quiet ++ [e].filter fun e => e.logger ≠ Work.deadLetterLogger :=
  t.quiet_noteAll [e]

def Context.muted (c : Context) : Context := { c with failureRecords := [] }

/-- Scenes that differ at most in the dead letters, with a sink that raises on none. -/
structure Alike (s s' : Scene) : Prop where
  context : s.context.muted = s'.context.muted
  journal : s.trail.quiet = s'.trail.quiet
  silent : ∀ sink, s.context.sink = some sink → sink.Silent

namespace Alike

variable {s s' : Scene}

theorem metadata (h : Alike s s') : s.context.metadata = s'.context.metadata :=
  (congrArg Context.metadata h.context :)

theorem pipelineName (h : Alike s s') : s.context.pipelineName = s'.context.pipelineName :=
  (congrArg Context.pipelineName h.context :)

theorem sink (h : Alike s s') : s.context.sink = s'.context.sink :=
  (congrArg Context.sink h.context :)

theorem symm (h : Alike s s') : Alike s' s where
  context := h.context.symm
  journal := h.journal.symm
  silent found same := h.silent found (h.sink.trans same)

theorem change (h : Alike s s') {f : Context → Context} (blind : ∀ c, (f c).muted = (f c.muted).muted)
    (sink : ∀ c, (f c).sink = c.sink) :
    Alike { s with context := f s.context } { s' with context := f s'.context } where
  context := by
    show (f s.context).muted = (f s'.context).muted
    rw [blind, h.context, ← blind]
  journal := h.journal
  silent found same := h.silent found ((sink _).symm.trans same)

theorem note (h : Alike s s') (e : Entry) : Alike (s.note e) (s'.note e) where
  context := h.context
  journal := by
    show (s.trail.note e).quiet = (s'.trail.note e).quiet
    rw [Trail.quiet_note, Trail.quiet_note, h.journal]
  silent := h.silent

theorem answer (h : Alike s s') (a : Ambient) (r : FailureRecord) : (s.route a).answer r = none := by
  cases heard : s.context.sink with
  | none => exact Route.answer_of_sink_eq_none heard r
  | some sink => simp [Route.answer, Scene.route, heard, h.silent sink heard _ r]

end Alike

namespace Work

/-- Two works that come to one outcome and to alike scenes from alike ones. -/
def Agrees {α : Type} (x y : Work α) : Prop :=
  ∀ s s', Alike s s' → ∃ outcome s₁ s₁',
    x.run.run s = (outcome, s₁) ∧ y.run.run s' = (outcome, s₁') ∧ Alike s₁ s₁'

theorem handedOver_context (a : Ambient) (r : FailureRecord) (s : Scene) :
    (handedOver a r s).context.muted = s.context.countFailure.muted ∧
      (handedOver a r s).context.sink = s.context.sink := by
  unfold handedOver
  split <;> exact ⟨rfl, rfl⟩

theorem quiet_handedOver (a : Ambient) (r : FailureRecord) (s : Scene) :
    (handedOver a r s).trail.quiet = s.trail.quiet := by
  unfold handedOver
  split
  · show (s.trail.note (keptEntry r)).quiet = s.trail.quiet
    simp [Trail.quiet_note, keptEntry, Entry.attempt]
  · show (s.trail.note (droppedEntry r)).quiet = s.trail.quiet
    simp [Trail.quiet_note, droppedEntry, Entry.attempt]

theorem alike_handedOver {s s' : Scene} (alike : Alike s s') (a b : Ambient) (r : FailureRecord) :
    Alike (handedOver a r s) (handedOver b r s') := by
  obtain ⟨context, sink⟩ := handedOver_context a r s
  have counted := alike.change (f := Context.countFailure) (fun _ => rfl) fun _ => rfl
  constructor
  case context => exact context.trans (counted.context.trans (handedOver_context b r s').1.symm)
  case journal => rw [quiet_handedOver, quiet_handedOver, alike.journal]
  case silent => exact fun found same => alike.silent found (sink ▸ same)

namespace Agrees

variable {α β : Type} {x y : Work α} {f g : α → Work β}

theorem of_outcome {outcome : Except Fault α} (run : ∀ s, x.run.run s = (outcome, s)) : Agrees x x :=
  fun s s' alike => ⟨outcome, s, s', run s, run s', alike⟩

theorem bind (hx : Agrees x y) (hf : ∀ v, Agrees (f v) (g v)) : Agrees (x >>= f) (y >>= g) := by
  intro s s' alike
  obtain ⟨outcome, s₁, s₁', first, first', left⟩ := hx s s' alike
  rw [run_bind, run_bind, first, first']
  cases outcome with
  | error fault => exact ⟨.error fault, s₁, s₁', rfl, rfl, left⟩
  | ok v => exact hf v s₁ s₁' left

theorem change {f : Context → Context} (blind : ∀ c, (f c).muted = (f c.muted).muted)
    (sink : ∀ c, (f c).sink = c.sink) : Agrees (Work.change f) (Work.change f) :=
  fun s s' alike => ⟨_, _, _, run_change f s, run_change f s', alike.change blind sink⟩

theorem note (e : Entry) : Agrees (Work.note e) (Work.note e) :=
  fun s s' alike => ⟨_, _, _, run_note e s, run_note e s', alike.note e⟩

theorem addError (m : String) : Agrees (Work.addError m) (Work.addError m) :=
  fun s s' alike => ⟨_, _, _, run_addError m s, run_addError m s',
    (alike.change (f := fun c => c.addError m) (fun _ => rfl) fun _ => rfl).note _⟩

theorem addWarning (m : String) : Agrees (Work.addWarning m) (Work.addWarning m) :=
  fun s s' alike => ⟨_, _, _, run_addWarning m s, run_addWarning m s',
    (alike.change (f := fun c => c.addWarning m) (fun _ => rfl) fun _ => rfl).note _⟩

theorem composes : Composes fun x => Agrees x x where
  pure v := of_outcome (run_pure v)
  throw fault := of_outcome (run_throw fault)
  bind := bind
  note _ := note _
  addError := addError
  addWarning := addWarning
  metric _ _ := change (fun _ => rfl) fun _ => rfl
  recordsIn _ := change (fun _ => rfl) fun _ => rfl
  recordsProcessed _ := change (fun _ => rfl) fun _ => rfl

end Agrees

end Work

section Call

open Work (Agrees)

variable {a b : Ambient}

/-- Giving a record up fails only before the switch is read, when no letter can be made of it. -/
theorem Identity.failRecord_agrees (now : a.now = b.now) (i : Identity) (payload : Value) :
    Agrees (i.failRecord a payload) (i.failRecord b payload) := by
  intro s s' alike
  cases built : FailureRecord.build (i.draft s.context.pipelineName payload) a.now with
  | error fault =>
    have built' := built
    rw [alike.pipelineName, now] at built'
    exact ⟨_, _, _, i.run_failRecord_of_unbuilt s built, i.run_failRecord_of_unbuilt s' built', alike⟩
  | ok r =>
    have built' := built
    rw [alike.pipelineName, now] at built'
    refine ⟨.ok (), _, _, ?_, ?_, Work.alike_handedOver alike a b r⟩
    · rw [i.run_failRecord_of_built s built, alike.answer]
      rfl
    · rw [i.run_failRecord_of_built s' built', alike.symm.answer]
      rfl

namespace FieldMapping

theorem convertAll_agrees (now : a.now = b.now) (i : Identity) (ts : Targets) (records : List Fields) :
    Agrees (convertAll i a ts records) (convertAll i b ts records) := by
  induction records with
  | nil => exact Agrees.composes.pure _
  | cons fs rest ih =>
    simp only [convertAll]
    split
    · exact ih.bind fun _ => Agrees.composes.pure _
    · exact (Agrees.note _).bind fun _ => (i.failRecord_agrees now _).bind fun _ => ih
    · exact Agrees.composes.throw _

theorem core_agrees (now : a.now = b.now) (i : Identity) (ts : Targets) (data : Value) :
    Agrees (core i ts a data) (core i ts b data) := by
  unfold core
  split
  · exact Agrees.composes.throw _
  · exact (Agrees.note _).bind fun _ => (convertAll_agrees now i ts _).bind fun _ =>
      (Agrees.composes.metric _ _).bind fun _ => (Agrees.composes.metric _ _).bind fun _ =>
        Agrees.composes.pure _

end FieldMapping

namespace Processor

variable {p : Processor} {s s' : Scene}

theorem giveUp_agrees (later : a.later = b.later) (p : Processor) (fault : Fault) (alike : Alike s s') :
    (p.giveUp a fault s).1 = (p.giveUp b fault s').1 ∧
      Alike (p.giveUp a fault s).2 (p.giveUp b fault s').2 := by
  have left := alike.change (f := leave a.later false) (fun _ => rfl) fun _ => rfl
  rcases p.giveUp_cases a fault s with ⟨own, given⟩ | ⟨unwritable, untold, given⟩ | ⟨raw, told, given⟩
  · rw [given, giveUp_of_not_isRaw own, ← later]
    exact ⟨rfl, left⟩
  · rw [given, giveUp_of_untold untold, ← later]
    exact ⟨rfl, left⟩
  · rw [given, giveUp_of_isRaw raw told, ← later]
    exact ⟨rfl, (left.change (f := fun c => c.addError _) (fun _ => rfl) fun _ => rfl).note _⟩

/-- A call reads the switch in its core, if anywhere. -/
theorem process_agrees (now : a.now = b.now) (later : a.later = b.later)
    (core : ∀ data, Agrees (p.core a data) (p.core b data))
    (data : Value) (alike : Alike s s') : ∃ outcome p' s₁ s₁',
      p.process a data s = (outcome, p', s₁) ∧ p.process b data s' = (outcome, p', s₁') ∧
        Alike s₁ s₁' := by
  have entered := alike.change (f := p.enter a.now) (fun _ => rfl) fun _ => rfl
  obtain ⟨outcome, before, before', prepared, prepared', ready⟩ :=
    Agrees.composes.prepare p data _ _ entered
  rw [now] at prepared'
  cases outcome with
  | error fault =>
    obtain ⟨same, left⟩ := p.giveUp_agrees later fault ready
    refine ⟨_, _, _, _, process_of_input_error prepared, ?_, left⟩
    rw [process_of_input_error prepared', same]
  | ok =>
    obtain ⟨outcome, mid, mid', ran, ran', done⟩ := core data before before' ready
    cases outcome with
    | error fault =>
      obtain ⟨same, left⟩ := p.giveUp_agrees later fault done
      refine ⟨_, _, _, _, process_of_core_error prepared ran, ?_, left⟩
      rw [process_of_core_error prepared' ran', same]
    | ok out =>
      have counted : p.countFailed before'.context mid'.context =
          p.countFailed before.context mid.context := by
        simp only [countFailed, ready.metadata, done.metadata]
      obtain ⟨outcome, after, after', released, released', last⟩ :=
        Agrees.composes.release p out mid mid' done
      cases outcome with
      | error fault =>
        obtain ⟨same, left⟩ := p.giveUp_agrees later fault last
        refine ⟨_, _, _, _, process_of_output_error prepared ran released, ?_, left⟩
        rw [process_of_output_error prepared' ran' released', same, counted]
      | ok =>
        have left := last.change (f := leave a.later true) (fun _ => rfl) fun _ => rfl
        have duration : (leave a.later true after'.context).metadata.duration =
            (leave a.later true after.context).metadata.duration :=
          (congrArg Metadata.duration left.metadata).symm
        have entry : p.completedEntry (leave a.later true after'.context) =
            p.completedEntry (leave a.later true after.context) := by
          simp only [completedEntry, duration]
        refine ⟨_, _, _, _, process_of_ok prepared ran released, ?_, left.note _⟩
        rw [process_of_ok prepared' ran' released', counted, ← later, entry]

end Processor

end Call

end RecordPipeline
