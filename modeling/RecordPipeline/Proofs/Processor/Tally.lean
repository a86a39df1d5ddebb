import RecordPipeline.Proofs.Processor.Isolation
import RecordPipeline.Proofs.Processor.Noticed
set_option autoImplicit false

namespace RecordPipeline

namespace Processor

/-- One of the calls of a processor. Its checks and its core logic stand here as they are at this
call, since they may keep a state of their own; the scene may be one that an earlier call has left.
-/
structure Call where
  processor : Processor
  ambient : Ambient
  data : Value
  scene : Scene

namespace Call

def made (c : Call) (t : Tally) : Except Fault Value × Processor × Scene :=
  { c.processor with tally := t }.process c.ambient c.data c.scene

def outcome (c : Call) : Except Fault Value := (c.processor.called c.ambient c.data c.scene).1

def left (c : Call) : Scene := (c.processor.called c.ambient c.data c.scene).2

def entered (c : Call) (t : Tally) : Tally := (c.made t).2.1.tally

theorem eq_of_made (c : Call) (t : Tally) {out : Except Fault Value} {q : Processor} {last : Scene}
    (run : c.made t = (out, q, last)) : c.outcome = out ∧ c.left = last ∧ c.entered t = q.tally := by
  obtain ⟨_, made, -⟩ :=
    process_of_fresh_eq (p := c.processor) (q := { c.processor with tally := t }) rfl c.ambient c.data c.scene
  obtain ⟨outcome, rest⟩ := Prod.mk.inj (made.symm.trans run)
  exact ⟨outcome, (Prod.mk.inj rest).2, by rw [entered, run]⟩

end Call

def tallyAfter (t : Tally) : List Call → Tally
  | [] => t
  | c :: later => tallyAfter (c.entered t) later

/-- A fault that leaves a stage of a call, and the errors that the context has by then: those that
it had before the call, those of validation as far as it came, and between the two validations what
the core makes of them. -/
inductive Arises (p : Processor) (a : Ambient) (data : Value) (s : Scene) : Fault → List String → Prop
  | input {fault : Fault} (refused : p.judgement .input p.input data = .error fault) :
    Arises p a data s fault (s.context.errors ++ reported .input p.input data)
  | core {before mid : Scene} {fault : Fault}
    (prepared : (p.prepare data).run.run { s with context := p.enter a.now s.context } = (.ok (), before))
    (told : before.context.errors = s.context.errors ++ reported .input p.input data)
    (ran : (p.core a data).run.run before = (.error fault, mid)) :
    Arises p a data s fault mid.context.errors
  | output {before mid : Scene} {out : Value} {fault : Fault}
    (prepared : (p.prepare data).run.run { s with context := p.enter a.now s.context } = (.ok (), before))
    (told : before.context.errors = s.context.errors ++ reported .input p.input data)
    (ran : (p.core a data).run.run before = (.ok out, mid))
    (refused : p.judgement .output p.output out = .error fault) :
    Arises p a data s fault (mid.context.errors ++ reported .output p.output out)

section Steps

variable {p : Processor} {a : Ambient} {data : Value} {s before mid after : Scene} {out : Value} {fault : Fault}
  {errors : List String}

theorem told_of_release {outcome : Except Fault Unit} (released : (p.release out).run.run mid = (outcome, after)) :
    outcome = p.judgement .output p.output out ∧
      after.context.errors = mid.context.errors ++ reported .output p.output out := by
  obtain ⟨after', run, told⟩ := release_adds lists_errors p out mid
  cases released.symm.trans run
  exact ⟨rfl, told⟩

theorem Arises.process (arises : Arises p a data s fault errors) : ∃ last q,
    p.process a data s = (.error (p.giveUp a fault last).1, q, (p.giveUp a fault last).2) ∧
      last.context.errors = errors ∧ q.tally.processed = p.tally.processed ∧
      q.tally.errors = p.tally.errors + 1 := by
  cases arises with
  | input refused =>
    obtain ⟨before, prepared, told⟩ := prepare_adds lists_errors p data { s with context := p.enter a.now s.context }
    rw [refused] at prepared
    exact ⟨before, _, process_of_input_error prepared, told, rfl, rfl⟩
  | core prepared _ ran => exact ⟨_, _, process_of_core_error prepared ran, rfl, rfl, rfl⟩
  | @output _ mid out _ prepared _ ran refused =>
    obtain ⟨after, released, told⟩ := release_adds lists_errors p out mid
    rw [refused] at released
    exact ⟨after, _, process_of_output_error prepared ran released, told, rfl, rfl⟩

end Steps

section Books

variable {c : Call} {t : Tally}

end Books

end Processor

end RecordPipeline
