import Mathlib.Data.List.Basic
import RecordPipeline.Processor.Basic
import RecordPipeline.Proofs.Scene
set_option autoImplicit false

/-!
What stands around the core of a processor. Holding data against a contract has an outcome that the
scene has no part in, and it leaves everything in the scene that messages and metrics of validation
do not show.
-/

namespace RecordPipeline

def Fault.IsRaw : Fault → Prop
  | .processor .. => False
  | _ => True

def Fault.IsTold (fault : Fault) : Prop := ∃ text, fault.message = .ok text

theorem Fault.IsTold.message_eq {fault : Fault} (told : fault.IsTold) : fault.message = .ok fault.shown := by
  obtain ⟨text, message⟩ := told
  rw [shown, message]
  rfl

theorem Fault.isTold_of_not_isRaw {fault : Fault} (own : ¬ fault.IsRaw) : fault.IsTold := by
  cases fault
  case processor message _ _ _ => exact ⟨message, rfl⟩
  all_goals exact absurd trivial own

namespace Work

/-- Work that ends in one and the same way in every scene, and leaves a view of the scene as it is. -/
def Passes {α β : Type} (view : Scene → β) (x : Work α) (outcome : Except Fault α) : Prop :=
  ∀ s, ∃ s', x.run.run s = (outcome, s') ∧ view s' = view s

namespace Passes

variable {α β γ : Type} {view : Scene → γ} {x : Work α} {f : α → Work β} {v : α}

theorem pure (v : α) : Passes view (Pure.pure v : Work α) (.ok v) := fun s => ⟨s, run_pure v s, rfl⟩

theorem throw (fault : Fault) : Passes view (MonadExcept.throw fault : Work α) (.error fault) :=
  fun s => ⟨s, run_throw fault s, rfl⟩

theorem bind {outcome : Except Fault β} (hx : Passes view x (.ok v))
    (hf : Passes view (f v) outcome) : Passes view (x >>= f) outcome := by
  intro s
  obtain ⟨s', first, same⟩ := hx s
  obtain ⟨s'', second, same'⟩ := hf s'
  refine ⟨s'', ?_, same'.trans same⟩
  rw [run_bind, first]
  exact second

theorem bind_error {fault : Fault} (hx : Passes view x (.error fault)) :
    Passes view (x >>= f) (.error fault) := by
  intro s
  obtain ⟨s', first, same⟩ := hx s
  refine ⟨s', ?_, same⟩
  rw [run_bind, first]

theorem change {g : Context → Context}
    (h : ∀ s : Scene, view { s with context := g s.context } = view s) :
    Passes view (Work.change g) (.ok ()) := fun s => ⟨_, run_change g s, h s⟩

theorem forM {ι : Type} {xs : List ι} {g : ι → Work Unit} (h : ∀ i ∈ xs, Passes view (g i) (.ok ())) :
    Passes view (xs.forM g) (.ok ()) := by
  induction xs with
  | nil => exact pure ()
  | cons i xs ih =>
    exact bind (h i List.mem_cons_self) (ih fun j hj => h j (List.mem_cons_of_mem _ hj))

end Passes

end Work

namespace Processor

open Work (Passes)

/-- A view of scenes that shows nothing of what is written while data is held against a contract. -/
structure Blind {β : Type} (view : Scene → β) : Prop where
  note (s : Scene) (e : Entry) : view (s.note e) = view s
  addError (s : Scene) (m : String) : view (s.addError m) = view s
  addWarning (s : Scene) (m : String) : view (s.addWarning m) = view s
  metadata (s : Scene) (side : Side) (v : Value) :
    view { s with context := s.context.addMetric (side.name ++ "_validation_metadata") v } = view s

theorem blind_nothing : Blind fun _ : Scene => () :=
  ⟨fun _ _ => rfl, fun _ _ => rfl, fun _ _ => rfl, fun _ _ _ => rfl⟩

def judgement (p : Processor) (side : Side) (check : Option (Check Fault)) (data : Value) :
    Except Fault Unit :=
  match check with
  | none => .ok ()
  | some c =>
    match (c.validate data).2 with
    | .error fault => .error fault
    | .ok v =>
      if v.isValid then .ok ()
      else .error (.processor (side.title ++ " validation failed: " ++ v.summary) p.name true none)

theorem judgement_inWork (p : Processor) (side : Side) (c : Contract) (data : Value) :
    p.judgement side (some c.inWork) data =
      match c.judge data with
      | .error fault => .error (.value fault)
      | .ok v =>
        if v.isValid then .ok ()
        else .error (.processor (side.title ++ " validation failed: " ++ v.summary) p.name true none) := by
  have judged : c.inWork.judge data = (c.judge data).mapError .value := rfl
  simp only [judgement, Check.snd_validate, judged]
  cases c.judge data <;> rfl

variable {β : Type} {view : Scene → β}

theorem note_passes (blind : Blind view) (e : Entry) : Passes view (Work.note e) (.ok ()) :=
  fun s => ⟨_, Work.run_note e s, blind.note s e⟩

theorem report_passes (blind : Blind view) (side : Side) (v : Verdict) :
    Passes view (report side v) (.ok ()) := by
  unfold report
  refine .bind (.forM fun i _ => ?_) (.bind (.forM fun i _ => ?_) (.change fun s => ?_))
  · exact fun s => ⟨_, Work.run_addError _ s, blind.addError s _⟩
  · exact fun s => ⟨_, Work.run_addWarning _ s, blind.addWarning s _⟩
  · exact blind.metadata s side _

theorem hold_passes (blind : Blind view) (p : Processor) (side : Side) (check : Option (Check Fault))
    (data : Value) : Passes view (p.hold side check data) (p.judgement side check data) := by
  cases check with
  | none => exact .pure ()
  | some c =>
    simp only [hold, judgement]
    rcases c.validate data with ⟨entries, outcome⟩
    refine .bind (note_passes blind _) (.bind (.forM fun e _ => note_passes blind e) ?_)
    cases outcome with
    | error fault => exact .throw _
    | ok v =>
      refine .bind (report_passes blind side v) ?_
      cases valid : v.isValid with
      | true => simpa [valid] using Passes.pure ()
      | false => simpa [valid] using Passes.throw _

theorem prepare_passes (blind : Blind view)
    (counted : ∀ (s : Scene) (n : Nat), view { s with context := { s.context with
      metadata := { s.context.metadata with recordsIn := some n } } } = view s)
    (p : Processor) (data : Value) :
    Passes view (p.prepare data) (p.judgement .input p.input data) := by
  have held := hold_passes blind p .input p.input data
  have sized : Passes view (countIn data) (.ok ()) := by
    unfold countIn
    cases data.batchSize? with
    | none => exact .pure ()
    | some n => exact .change fun s => counted s n
  refine .bind (note_passes blind _) ?_
  cases judged : p.judgement .input p.input data with
  | error fault => exact .bind_error (judged ▸ held)
  | ok => exact .bind (judged ▸ held) (.bind sized (note_passes blind _))

theorem release_passes (blind : Blind view)
    (counted : ∀ (s : Scene) (n : Nat), view { s with context := { s.context with
      metadata := { s.context.metadata with recordsProcessed := some n } } } = view s)
    (p : Processor) (out : Value) :
    Passes view (p.release out) (p.judgement .output p.output out) := by
  have sized : Passes view (countOut out) (.ok ()) := by
    unfold countOut
    cases out.batchSize? with
    | none => exact .pure ()
    | some n => exact .change fun s => counted s n
  exact .bind sized (hold_passes blind p .output p.output out)

section GiveUp

variable {fault : Fault} {p : Processor} {a : Ambient} {s : Scene}

theorem giveUp_of_isRaw (raw : fault.IsRaw) (told : fault.IsTold) : p.giveUp a fault s =
    (.processor ("Processing failed in " ++ p.name ++ ": " ++ fault.shown) p.name true (some fault),
      { s with context := leave a.later false s.context }.addError
        ("Processing failed in " ++ p.name ++ ": " ++ fault.shown)) := by
  cases fault
  case processor => exact raw.elim
  all_goals simp only [giveUp, told.message_eq]

theorem giveUp_of_not_isRaw (own : ¬ fault.IsRaw) : p.giveUp a fault s =
    (fault, { s with context := leave a.later false s.context }) := by
  cases fault
  case processor => rfl
  all_goals exact absurd trivial own

theorem giveUp_of_untold {unwritable : ValueFault} (untold : fault.message = .error unwritable) :
    p.giveUp a fault s = (.value unwritable, { s with context := leave a.later false s.context }) := by
  cases fault
  case processor => cases untold
  all_goals simp only [giveUp, untold]

/-- A fault of another kind leaves as it is only if it cannot be told. -/
theorem giveUp_cases (p : Processor) (a : Ambient) (fault : Fault) (s : Scene) :
    (¬ fault.IsRaw ∧ p.giveUp a fault s = (fault, { s with context := leave a.later false s.context })) ∨
    (∃ unwritable, fault.message = .error unwritable ∧
      p.giveUp a fault s = (.value unwritable, { s with context := leave a.later false s.context })) ∨
    (fault.IsRaw ∧ fault.IsTold ∧ p.giveUp a fault s =
      (.processor ("Processing failed in " ++ p.name ++ ": " ++ fault.shown) p.name true (some fault),
        { s with context := leave a.later false s.context }.addError
          ("Processing failed in " ++ p.name ++ ": " ++ fault.shown))) := by
  by_cases raw : fault.IsRaw
  · cases message : fault.message with
    | error unwritable => exact .inr (.inl ⟨unwritable, rfl, giveUp_of_untold message⟩)
    | ok text => exact .inr (.inr ⟨raw, ⟨text, message⟩, giveUp_of_isRaw raw ⟨text, message⟩⟩)
  · exact .inl ⟨raw, giveUp_of_not_isRaw raw⟩

theorem view_giveUp {β : Type} (view : Scene → β)
    (left : ∀ s : Scene, view { s with context := leave a.later false s.context } = view s)
    (told : ∀ (s : Scene) (m : String), view (s.addError m) = view s) : view (p.giveUp a fault s).2 = view s := by
  rcases p.giveUp_cases a fault s with ⟨-, given⟩ | ⟨unwritable, -, given⟩ | ⟨-, -, given⟩ <;> rw [given]
  · exact left s
  · exact left s
  · exact (told _ _).trans (left s)

theorem isTold_giveUp (p : Processor) (a : Ambient) (fault : Fault) (s : Scene) :
    (p.giveUp a fault s).1.IsTold := by
  rcases p.giveUp_cases a fault s with ⟨own, given⟩ | ⟨unwritable, -, given⟩ | ⟨-, -, given⟩ <;> rw [given]
  · exact Fault.isTold_of_not_isRaw own
  · exact ⟨_, rfl⟩
  · exact ⟨_, rfl⟩

end GiveUp

section Process

variable {p : Processor} {a : Ambient} {data out : Value} {s before mid after : Scene}

theorem process_of_ok
    (prepared : (p.prepare data).run.run { s with context := p.enter a.now s.context } =
      (.ok (), before))
    (ran : (p.core a data).run.run before = (.ok out, mid))
    (released : (p.release out).run.run mid = (.ok (), after)) :
    p.process a data s =
      (.ok out, (p.countFailed before.context mid.context).countProcessed,
        { after with context := leave a.later true after.context }.note
          (p.completedEntry (leave a.later true after.context))) := by
  have released' : ((p.countFailed before.context mid.context).release out).run.run mid =
    (.ok (), after) := released
  simp only [process, prepared, ran, released']
  rfl

theorem process_of_input_error {fault : Fault}
    (prepared : (p.prepare data).run.run { s with context := p.enter a.now s.context } =
      (.error fault, before)) :
    p.process a data s =
      (.error (p.giveUp a fault before).1, p.countError, (p.giveUp a fault before).2) := by
  simp only [process, prepared]

theorem process_of_core_error {fault : Fault}
    (prepared : (p.prepare data).run.run { s with context := p.enter a.now s.context } =
      (.ok (), before))
    (ran : (p.core a data).run.run before = (.error fault, mid)) :
    p.process a data s =
      (.error (p.giveUp a fault mid).1, p.countError, (p.giveUp a fault mid).2) := by
  simp only [process, prepared, ran]

theorem process_of_output_error {fault : Fault}
    (prepared : (p.prepare data).run.run { s with context := p.enter a.now s.context } =
      (.ok (), before))
    (ran : (p.core a data).run.run before = (.ok out, mid))
    (released : (p.release out).run.run mid = (.error fault, after)) :
    p.process a data s =
      (.error (p.giveUp a fault after).1, (p.countFailed before.context mid.context).countError,
        (p.giveUp a fault after).2) := by
  have released' : ((p.countFailed before.context mid.context).release out).run.run mid =
    (.error fault, after) := released
  simp only [process, prepared, ran, released']
  rfl

/-- How a call goes: it ends at the input, in the core or at the output, or it returns. -/
inductive Course (p : Processor) (a : Ambient) (data : Value) (s : Scene) : Prop
  | input {before : Scene} {fault : Fault}
    (prepared : (p.prepare data).run.run { s with context := p.enter a.now s.context } = (.error fault, before))
  | core {before mid : Scene} {fault : Fault}
    (prepared : (p.prepare data).run.run { s with context := p.enter a.now s.context } = (.ok (), before))
    (ran : (p.core a data).run.run before = (.error fault, mid))
  | output {before mid after : Scene} {out : Value} {fault : Fault}
    (prepared : (p.prepare data).run.run { s with context := p.enter a.now s.context } = (.ok (), before))
    (ran : (p.core a data).run.run before = (.ok out, mid))
    (released : (p.release out).run.run mid = (.error fault, after))
  | returned {before mid after : Scene} {out : Value}
    (prepared : (p.prepare data).run.run { s with context := p.enter a.now s.context } = (.ok (), before))
    (ran : (p.core a data).run.run before = (.ok out, mid))
    (released : (p.release out).run.run mid = (.ok (), after))

theorem course (p : Processor) (a : Ambient) (data : Value) (s : Scene) : Course p a data s := by
  rcases prepared : (p.prepare data).run.run { s with context := p.enter a.now s.context }
    with ⟨fault | ⟨⟩, before⟩
  · exact .input prepared
  · rcases ran : (p.core a data).run.run before with ⟨fault | out, mid⟩
    · exact .core prepared ran
    · rcases released : (p.release out).run.run mid with ⟨fault | ⟨⟩, after⟩
      · exact .output prepared ran released
      · exact .returned prepared ran released

theorem exists_core_of_process (returned : (p.process a data s).1 = .ok out) :
    ∃ before mid, (p.prepare data).run.run { s with context := p.enter a.now s.context } = (.ok (), before) ∧
      (p.core a data).run.run before = (.ok out, mid) := by
  cases p.course a data s with
  | input prepared =>
    rw [process_of_input_error prepared] at returned
    cases returned
  | core prepared ran =>
    rw [process_of_core_error prepared ran] at returned
    cases returned
  | output prepared ran released =>
    rw [process_of_output_error prepared ran released] at returned
    cases returned
  | returned prepared ran released =>
    rw [process_of_ok prepared ran released] at returned
    cases returned
    exact ⟨_, _, prepared, ran⟩

/-- A relation that each part of a call keeps to, from where the input has been held to the end of
the call. -/
theorem process_related {R : Scene → Scene → Prop} (trans : ∀ {s s' s''}, R s s' → R s' s'' → R s s'')
    (core : ∀ s, R s ((p.core a data).run.run s).2) (release : ∀ out s, R s ((p.release out).run.run s).2)
    (giveUp : ∀ fault s, R s (p.giveUp a fault s).2)
    (finish : ∀ s : Scene, R s ({ s with context := leave a.later true s.context }.note
      (p.completedEntry (leave a.later true s.context)))) (s : Scene) :
    R ((p.prepare data).run.run { s with context := p.enter a.now s.context }).2 (p.process a data s).2.2 := by
  cases course p a data s with
  | input prepared =>
    rw [process_of_input_error prepared, prepared]
    exact giveUp _ _
  | @core before mid fault prepared ran =>
    have first := core before
    rw [ran] at first
    rw [process_of_core_error prepared ran, prepared]
    exact trans first (giveUp _ _)
  | @output before mid after out fault prepared ran released =>
    have first := core before
    have second := release out mid
    rw [ran] at first
    rw [released] at second
    rw [process_of_output_error prepared ran released, prepared]
    exact trans first (trans second (giveUp _ _))
  | @returned before mid after out prepared ran released =>
    have first := core before
    have second := release out mid
    rw [ran] at first
    rw [released] at second
    rw [process_of_ok prepared ran released, prepared]
    exact trans first (trans second (finish _))

/-- The faults that a call gives up on, by where they arise. The core runs in a scene that looks as
the one that was entered. -/
inductive Raises (view : Scene → β) (p : Processor) (a : Ambient) (data : Value) (s : Scene) :
    Fault → Prop
  | input {fault : Fault} (refused : p.judgement .input p.input data = .error fault) :
    Raises view p a data s fault
  | core {before mid : Scene} {fault : Fault}
    (same : view before = view { s with context := p.enter a.now s.context })
    (ran : (p.core a data).run.run before = (.error fault, mid)) : Raises view p a data s fault
  | output {before mid : Scene} {out : Value} {fault : Fault}
    (ran : (p.core a data).run.run before = (.ok out, mid))
    (refused : p.judgement .output p.output out = .error fault) : Raises view p a data s fault

theorem exists_raises_of_process (blind : Blind view)
    (counted : ∀ (s : Scene) (n : Nat), view { s with context := { s.context with
      metadata := { s.context.metadata with recordsIn := some n } } } = view s)
    {fault : Fault} (failed : (p.process a data s).1 = .error fault) :
    ∃ first last, Raises view p a data s first ∧ fault = (p.giveUp a first last).1 := by
  obtain ⟨before, prepared, same⟩ := prepare_passes blind counted p data
    { s with context := p.enter a.now s.context }
  cases judged : p.judgement .input p.input data with
  | error first =>
    rw [judged] at prepared
    rw [process_of_input_error prepared] at failed
    exact ⟨first, before, .input judged, (Except.error.inj failed).symm⟩
  | ok =>
    rw [judged] at prepared
    rcases ran : (p.core a data).run.run before with ⟨first | out, mid⟩
    · rw [process_of_core_error prepared ran] at failed
      exact ⟨first, mid, .core same ran, (Except.error.inj failed).symm⟩
    · obtain ⟨after, released, -⟩ := release_passes blind_nothing (fun _ _ => rfl) p out mid
      cases refused : p.judgement .output p.output out with
      | error first =>
        rw [refused] at released
        rw [process_of_output_error prepared ran released] at failed
        exact ⟨first, after, .output ran refused, (Except.error.inj failed).symm⟩
      | ok =>
        rw [refused] at released
        rw [process_of_ok prepared ran released] at failed
        cases failed

theorem isTold_of_process {fault : Fault} (failed : (p.process a data s).1 = .error fault) : fault.IsTold := by
  obtain ⟨first, last, -, rfl⟩ := exists_raises_of_process blind_nothing (fun _ _ => rfl) failed
  exact p.isTold_giveUp a first last

end Process

end Processor

end RecordPipeline
