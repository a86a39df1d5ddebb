import RecordPipeline.Proofs.FieldMapping.Process
set_option autoImplicit false

namespace RecordPipeline

structure FailureRecord.SignedBy (r : FailureRecord) (i : Identity) (pipelineName : Value) : Prop where
  pluginId : r.pluginId = i.pluginId
  pluginName : r.pluginName = .text i.name
  pipelineName : r.pipelineName = pipelineName

namespace Work

/-- Work that sends no letter, whatever it comes to. -/
def Silent (a : Ambient) {α : Type} (x : Work α) : Prop := ∀ s, Sent a s (x.run.run s).2 []

namespace Silent

variable {a : Ambient} {α β : Type} {x : Work α} {f : α → Work β}

theorem bind (hx : Silent a x) (hf : ∀ v, Silent a (f v)) : Silent a (x >>= f) := by
  intro s
  have first := hx s
  rw [run_bind]
  rcases run : x.run.run s with ⟨fault | v, s'⟩
  · rw [run] at first
    exact first
  · rw [run] at first
    exact first.trans (hf v s')

theorem change {g : Context → Context}
    (h : ∀ s : Scene, Scene.ledger a { s with context := g s.context } = s.ledger a) :
    Silent a (Work.change g) :=
  fun s => .nil_of_eq (h s) rfl

theorem composes (a : Ambient) : Composes (@Silent a) where
  pure _ s := .refl a s
  throw _ s := .refl a s
  bind := bind
  note quiet s := .of_handsOver (.note quiet a s)
  addError _ s := .nil_of_eq rfl (Trail.deadLetters_note (Entry.quiet_contextLogger _ _) s.trail)
  addWarning _ s := .nil_of_eq rfl (Trail.deadLetters_note (Entry.quiet_contextLogger _ _) s.trail)
  metric _ _ := change fun _ => rfl
  recordsIn _ := change fun _ => rfl
  recordsProcessed _ := change fun _ => rfl

end Silent

end Work

theorem Processor.sent_giveUp (p : Processor) (a : Ambient) (fault : Fault) (s : Scene) :
    Sent a s (p.giveUp a fault s).2 [] := by
  refine .nil_of_eq (view_giveUp (Scene.ledger a) (fun _ => rfl) fun _ _ => rfl) ?_
  refine view_giveUp (fun s => s.trail.deadLetters) (fun _ => rfl) fun s m => ?_
  exact Trail.deadLetters_note (Entry.quiet_contextLogger _ _) s.trail

namespace FieldMapping

open Work (Silent)

/-- The letters of the records that a mapper gives up on in data, up to the record that ends its
work. -/
def givenUp (i : Identity) (a : Ambient) (ts : Targets) (s : Scene) (data : Value) : List FailureRecord :=
  match recordsOf data with
  | .ok records => (settle i a ts s.context.pipelineName (s.route a) records).2
  | .error _ => []

def refusals (i : Identity) (a : Ambient) (ts : Targets) (pipelineName data : Value) : List FailureRecord :=
  match recordsOf data with
  | .ok records => (refused ts records).map fun fs => i.letter pipelineName a.now (.record fs)
  | .error _ => []

section Core

variable {i : Identity} {a : Ambient} {ts : Targets} {data out : Value} {s s' : Scene}

theorem givenUp_prefix : givenUp i a ts s data <+: refusals i a ts s.context.pipelineName data := by
  unfold givenUp refusals
  split
  · exact settle_snd_prefix
  · exact List.prefix_rfl

theorem givenUp_of_ledger_eq (same : s'.ledger a = s.ledger a) :
    givenUp i a ts s' data = givenUp i a ts s data := by
  unfold givenUp
  split
  · rw [settle_eq_of_ledger_eq same]
  · rfl

/-- A core sends the letters of what it gives up on, also when it is cut short. -/
theorem sent_of_core {outcome : Except Fault Value} (ran : (core i ts a data).run.run s = (outcome, s')) :
    Sent a s s' (givenUp i a ts s data) := by
  cases found : recordsOf data with
  | error fault =>
    simp only [core, found, Work.run_throw] at ran
    cases ran
    simpa only [givenUp, found] using Sent.refl a s
  | ok records =>
    rcases settled : settle i a ts s.context.pipelineName (s.route a) records with ⟨fault | kept, handed⟩
    · obtain ⟨_, run, sent⟩ := run_core_of_unsettled found i s settled
      cases ran.symm.trans run
      simpa only [givenUp, found, settled] using sent
    · obtain ⟨_, run, sent, -⟩ := run_core_of_settled found i s settled
      cases ran.symm.trans run
      simpa only [givenUp, found, settled] using sent

theorem givenUp_of_core (ran : (core i ts a data).run.run s = (.ok out, s')) :
    givenUp i a ts s data = refusals i a ts s.context.pipelineName data := by
  cases found : recordsOf data with
  | error fault => simp only [givenUp, refusals, found]
  | ok records =>
    rcases settled : settle i a ts s.context.pipelineName (s.route a) records with ⟨fault | kept, handed⟩
    · obtain ⟨_, run, -⟩ := run_core_of_unsettled found i s settled
      cases ran.symm.trans run
    · simp only [givenUp, refusals, found, settled]
      exact (eq_of_settle_eq_ok settled).2

end Core

section Call

variable {p : Processor} {ts : Targets} {a : Ambient} {data : Value} {s before mid : Scene}
  {outcome : Except Fault Value}

theorem sent_of_prepared {outcome : Except Fault Unit}
    (prepared : (p.prepare data).run.run { s with context := p.enter a.now s.context } = (outcome, before)) :
    Sent a s before [] := by
  have entered : Sent a s { s with context := p.enter a.now s.context } [] := .nil_of_eq rfl rfl
  have held := (Silent.composes a).prepare p data { s with context := p.enter a.now s.context }
  rw [prepared] at held
  exact entered.trans held

theorem givenUp_of_prepared {outcome : Except Fault Unit} (i : Identity)
    (prepared : (p.prepare data).run.run { s with context := p.enter a.now s.context } = (outcome, before)) :
    givenUp i a ts before data = givenUp i a ts s data :=
  givenUp_of_ledger_eq (by rw [(sent_of_prepared prepared).ledger, Ledger.hand_nil])

theorem IsMapper.givenUp_of_input (mapper : IsMapper p ts) {fault : Fault}
    (prepared : (p.prepare data).run.run { s with context := p.enter a.now s.context } = (.error fault, before)) :
    givenUp p.toIdentity a ts s data = [] := by
  cases found : recordsOf data with
  | error fault => simp only [givenUp, found]
  | ok records =>
    obtain ⟨_, run, -⟩ := run_prepare (a := a) mapper found s
    cases prepared.symm.trans run

theorem IsMapper.sent_of_core (mapper : IsMapper p ts)
    (prepared : (p.prepare data).run.run { s with context := p.enter a.now s.context } = (.ok (), before))
    (ran : (p.core a data).run.run before = (outcome, mid)) :
    Sent a s mid (givenUp p.toIdentity a ts s data) := by
  rw [mapper.core] at ran
  rw [← givenUp_of_prepared p.toIdentity prepared]
  exact (sent_of_prepared prepared).trans (FieldMapping.sent_of_core ran)

/-- A call of a mapper sends the letters of what it gives up on, whatever it comes to. -/
theorem IsMapper.sent (mapper : IsMapper p ts) (a : Ambient) (data : Value) (s : Scene) :
    Sent a s (p.process a data s).2.2 (givenUp p.toIdentity a ts s data) := by
  have ended (fault : Fault) (last : Scene) := p.sent_giveUp a fault last
  have release (out : Value) (last : Scene) := (Silent.composes a).release p out last
  cases p.course a data s with
  | input prepared =>
    rw [Processor.process_of_input_error prepared, mapper.givenUp_of_input prepared]
    exact (sent_of_prepared prepared).trans_nil (ended _ _)
  | core prepared ran =>
    rw [Processor.process_of_core_error prepared ran]
    exact (mapper.sent_of_core prepared ran).trans_nil (ended _ _)
  | @output _ mid _ out _ prepared ran released =>
    have released' := release out mid
    rw [released] at released'
    rw [Processor.process_of_output_error prepared ran released]
    exact ((mapper.sent_of_core prepared ran).trans_nil released').trans_nil (ended _ _)
  | @returned _ mid after out prepared ran released =>
    have released' := release out mid
    rw [released] at released'
    have left : Sent a after { after with context := Processor.leave a.later true after.context } [] :=
      .nil_of_eq rfl rfl
    rw [Processor.process_of_ok prepared ran released]
    exact (((mapper.sent_of_core prepared ran).trans_nil released').trans_nil left).trans_nil
      (.of_handsOver (.note (p.quiet_logger _ _) a _))

/-- The letters of a call: those of the records that its mapper gives up on. They are the first of
those that its mapping refuses, and all of these if the call returns. -/
structure GivesUp (p : Processor) (ts : Targets) (a : Ambient) (data : Value) (s : Scene)
    (letters : List FailureRecord) : Prop where
  mapper : IsMapper p ts
  settled : letters = givenUp p.toIdentity a ts s data
  first : letters <+: refusals p.toIdentity a ts s.context.pipelineName data
  all : ∀ out, (p.process a data s).1 = .ok out →
    letters = refusals p.toIdentity a ts s.context.pipelineName data

theorem IsMapper.givesUp (mapper : IsMapper p ts) (a : Ambient) (data : Value) (s : Scene) :
    GivesUp p ts a data s (givenUp p.toIdentity a ts s data) where
  mapper := mapper
  settled := rfl
  first := givenUp_prefix
  all out returned := by
    obtain ⟨before, mid, prepared, ran⟩ := Processor.exists_core_of_process returned
    rw [mapper.core] at ran
    rw [← givenUp_of_prepared p.toIdentity prepared, givenUp_of_core ran,
      (sent_of_prepared prepared).pipelineName]

theorem GivesUp.signedBy {letters : List FailureRecord} (h : GivesUp p ts a data s letters) :
    ∀ r ∈ letters, r.SignedBy p.toIdentity s.context.pipelineName := by
  intro r member
  have refused := h.first.subset member
  unfold refusals at refused
  split at refused
  · obtain ⟨fs, -, rfl⟩ := List.mem_map.mp refused
    exact ⟨rfl, rfl, rfl⟩
  · cases refused

end Call

end FieldMapping

end RecordPipeline
