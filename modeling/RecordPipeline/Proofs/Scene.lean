import RecordPipeline.Context
set_option autoImplicit false

/-!
Work in a scene, and the route that records take when a plugin gives up on them. A record that is
handed over is counted, and when routing is on it is kept in the context and offered to the sink,
whether or not the sink takes it.
-/

namespace RecordPipeline

namespace Work

theorem run_bind {α β : Type} (x : Work α) (f : α → Work β) (s : Scene) :
    (x >>= f).run.run s = match x.run.run s with
      | (.ok v, s') => (f v).run.run s'
      | (.error e, s') => (.error e, s') := by
  have unfolded : (x >>= f).run.run s =
      (ExceptT.bindCont f (x.run.run s).1).run (x.run.run s).2 := rfl
  rw [unfolded]
  rcases x.run.run s with ⟨_ | v, s'⟩ <;> rfl

theorem run_pure {α : Type} (v : α) (s : Scene) : (pure v : Work α).run.run s = (.ok v, s) := rfl

theorem run_throw {α : Type} (e : Fault) (s : Scene) :
    (throw e : Work α).run.run s = (.error e, s) := rfl

theorem run_note (e : Entry) (s : Scene) : (note e).run.run s = (.ok (), s.note e) := rfl

theorem run_change (f : Context → Context) (s : Scene) :
    (change f).run.run s = (.ok (), { s with context := f s.context }) := rfl

theorem run_addError (m : String) (s : Scene) :
    (addError m).run.run s = (.ok (), s.addError m) := rfl

theorem run_addWarning (m : String) (s : Scene) :
    (addWarning m).run.run s = (.ok (), s.addWarning m) := rfl

end Work

/-- What decides over a record that is handed over: whether routing is on, the sink, and what the
sink was offered before. -/
structure Route where
  enabled : Bool
  sink : Option Sink
  offered : List FailureRecord

namespace Route

def answer (route : Route) (r : FailureRecord) : Option Fault :=
  if route.enabled then route.sink.bind fun sink => sink.respond route.offered r else none

def after (route : Route) (rs : List FailureRecord) : Route :=
  if route.enabled && route.sink.isSome then { route with offered := route.offered ++ rs } else route

theorem answer_of_sink_eq_none {route : Route} (h : route.sink = none) (r : FailureRecord) :
    route.answer r = none := by
  simp [answer, h]

@[simp] theorem sink_after (route : Route) (rs : List FailureRecord) :
    (route.after rs).sink = route.sink := by
  unfold after
  split <;> rfl

@[simp] theorem enabled_after (route : Route) (rs : List FailureRecord) :
    (route.after rs).enabled = route.enabled := by
  unfold after
  split <;> rfl

theorem after_nil (route : Route) : route.after [] = route := by
  unfold after
  split <;> simp

theorem after_append (route : Route) (rs rs' : List FailureRecord) :
    (route.after rs).after rs' = route.after (rs ++ rs') := by
  by_cases h : (route.enabled && route.sink.isSome) = true
  · simp [after, h]
  · simp [after, h]

end Route

def Scene.route (s : Scene) (a : Ambient) : Route :=
  { enabled := a.settings.deadLetterEnabled
    sink := s.context.sink
    offered := s.trail.offered }

def Context.handed (enabled : Bool) (c : Context) (rs : List FailureRecord) : Context :=
  { c with
    failureRecords := c.failureRecords ++ if enabled then rs else []
    metadata := { c.metadata with recordsFailed := c.metadata.recordsFailed + rs.length } }

theorem Context.handed_nil (enabled : Bool) (c : Context) : c.handed enabled [] = c := by
  simp [handed]

theorem Context.handed_append (enabled : Bool) (c : Context) (rs rs' : List FailureRecord) :
    (c.handed enabled rs).handed enabled rs' = c.handed enabled (rs ++ rs') := by
  cases enabled <;> simp [handed, Nat.add_assoc]

/-- What a scene tells about the records that plugins gave up on: whose they are, how many, which of
them the context keeps, and the route of the next one. -/
@[ext]
structure Ledger where
  pipelineName : Value
  failed : Nat
  kept : List FailureRecord
  route : Route

def Scene.ledger (a : Ambient) (s : Scene) : Ledger :=
  { pipelineName := s.context.pipelineName
    failed := s.context.metadata.recordsFailed
    kept := s.context.failureRecords
    route := s.route a }

def Ledger.hand (l : Ledger) (rs : List FailureRecord) : Ledger :=
  { l with
    failed := l.failed + rs.length
    kept := l.kept ++ if l.route.enabled then rs else []
    route := l.route.after rs }

namespace Ledger

theorem hand_nil (l : Ledger) : l.hand [] = l := by
  simp [hand, Route.after_nil]

theorem hand_append (l : Ledger) (rs rs' : List FailureRecord) :
    (l.hand rs).hand rs' = l.hand (rs ++ rs') := by
  cases on : l.route.enabled <;>
    simp [hand, Route.after_append, Route.enabled_after, on, Nat.add_assoc]

end Ledger

def Entry.Quiet (e : Entry) : Prop := e.logger ≠ Work.deadLetterLogger

theorem append_ne_deadLetterLogger {family : String}
    (other : ¬ family.toList <+: Work.deadLetterLogger.toList) (name : String) :
    family ++ name ≠ Work.deadLetterLogger := by
  intro same
  refine other ⟨name.toList, ?_⟩
  rw [← same, String.toList_append]

theorem Entry.quiet_contextLogger (severity : Severity) (message : String) :
    (Entry.of Scene.contextLogger severity message).Quiet := by
  simp [Quiet, Entry.of, Scene.contextLogger, Work.deadLetterLogger]

def Trail.deadLetters (t : Trail) : List Entry :=
  t.journal.filter fun e => e.logger = Work.deadLetterLogger

def Work.sentEntry (a : Ambient) (r : FailureRecord) : Entry :=
  if a.settings.deadLetterEnabled then keptEntry r else droppedEntry r

namespace Trail

theorem deadLetters_note {e : Entry} (quiet : e.Quiet) (t : Trail) :
    (t.note e).deadLetters = t.deadLetters := by
  simpa [deadLetters, note, Entry.Quiet] using quiet

theorem deadLetters_noteAll {es : List Entry} (quiet : ∀ e ∈ es, e.Quiet) (t : Trail) :
    (t.noteAll es).deadLetters = t.deadLetters := by
  simpa [deadLetters, noteAll, Entry.Quiet] using quiet

end Trail

/-- Work that hands records over and otherwise only writes into the journal, and there not about the
dead-letter path. -/
structure HandsOver (a : Ambient) (s s' : Scene) (rs : List FailureRecord) : Prop where
  context : s'.context = s.context.handed a.settings.deadLetterEnabled rs
  route : s'.route a = (s.route a).after rs
  journal : s'.trail.deadLetters = s.trail.deadLetters ++ rs.map (Work.sentEntry a)

namespace HandsOver

variable {a : Ambient} {s s' s'' : Scene} {rs rs' : List FailureRecord}

theorem refl (a : Ambient) (s : Scene) : HandsOver a s s [] where
  context := (s.context.handed_nil _).symm
  route := (s.route a).after_nil.symm
  journal := (List.append_nil _).symm

theorem note {e : Entry} (quiet : e.Quiet) (a : Ambient) (s : Scene) : HandsOver a s (s.note e) [] where
  context := (refl a s).context
  route := (refl a s).route
  journal := (Trail.deadLetters_note quiet s.trail).trans (List.append_nil _).symm

theorem trans (h : HandsOver a s s' rs) (h' : HandsOver a s' s'' rs') :
    HandsOver a s s'' (rs ++ rs') where
  context := by rw [h'.context, h.context, Context.handed_append]
  route := by rw [h'.route, h.route, Route.after_append]
  journal := by rw [h'.journal, h.journal, List.map_append, List.append_assoc]

theorem cons {r : FailureRecord} (h : HandsOver a s s' [r]) (h' : HandsOver a s' s'' rs) :
    HandsOver a s s'' (r :: rs) := h.trans h'

theorem pipelineName (h : HandsOver a s s' rs) : s'.context.pipelineName = s.context.pipelineName := by
  rw [h.context]
  rfl

end HandsOver

/-- What scenes between which letters were sent, and nothing else, differ in on the dead-letter path. -/
structure Sent (a : Ambient) (s s' : Scene) (letters : List FailureRecord) : Prop where
  ledger : s'.ledger a = (s.ledger a).hand letters
  journal : s'.trail.deadLetters = s.trail.deadLetters ++ letters.map (Work.sentEntry a)

namespace Sent

variable {a : Ambient} {s s' s'' : Scene} {letters letters' : List FailureRecord}

theorem of_handsOver (h : HandsOver a s s' letters) : Sent a s s' letters where
  ledger := by
    simp only [Scene.ledger, Ledger.hand, h.route, h.context]
    rfl
  journal := h.journal

theorem nil_of_eq (ledger : s'.ledger a = s.ledger a)
    (journal : s'.trail.deadLetters = s.trail.deadLetters) : Sent a s s' [] :=
  ⟨by rw [ledger, Ledger.hand_nil], by simpa using journal⟩

theorem refl (a : Ambient) (s : Scene) : Sent a s s [] := nil_of_eq rfl rfl

theorem trans (h : Sent a s s' letters) (h' : Sent a s' s'' letters') :
    Sent a s s'' (letters ++ letters') where
  ledger := by rw [h'.ledger, h.ledger, Ledger.hand_append]
  journal := by rw [h'.journal, h.journal, List.map_append, List.append_assoc]

theorem trans_nil (h : Sent a s s' letters) (h' : Sent a s' s'' []) : Sent a s s'' letters := by
  simpa using h.trans h'

theorem pipelineName (h : Sent a s s' letters) : s'.context.pipelineName = s.context.pipelineName :=
  congrArg Ledger.pipelineName h.ledger

theorem recordsFailed (h : Sent a s s' letters) : s'.context.metadata.recordsFailed =
    s.context.metadata.recordsFailed + letters.length := congrArg Ledger.failed h.ledger

theorem failureRecords (h : Sent a s s' letters) : s'.context.failureRecords =
    s.context.failureRecords ++ if a.settings.deadLetterEnabled then letters else [] :=
  congrArg Ledger.kept h.ledger

theorem offered (h : Sent a s s' letters) : s'.trail.offered = s.trail.offered ++
    if a.settings.deadLetterEnabled && s.context.sink.isSome then letters else [] := by
  have route : s'.route a = (s.route a).after letters := congrArg Ledger.route h.ledger
  have offered : s'.trail.offered = ((s.route a).after letters).offered :=
    congrArg Route.offered route
  rw [offered, Route.after]
  split
  · rename_i heard
    rw [if_pos (by exact heard)]
    rfl
  · rename_i unheard
    rw [if_neg (by exact unheard), List.append_nil]
    rfl

end Sent

namespace Work

def answered : Option Fault → Except Fault Unit
  | none => .ok ()
  | some fault => .error fault

theorem run_offer (r : FailureRecord) (s : Scene) :
    (offer r).run.run s =
      (answered (s.context.sink.bind fun sink => sink.respond s.trail.offered r),
        { s with trail := { s.trail with
            offered := s.trail.offered ++ if s.context.sink.isSome then [r] else [] } }) := by
  have got : (get : Work Scene).run.run s = (.ok s, s) := rfl
  have put (s' : Scene) : (set s' : Work Unit).run.run s = (.ok (), s') := rfl
  rw [offer, run_bind, got]
  cases sink : s.context.sink with
  | none =>
    simp only [sink, Option.isSome_none, Bool.false_eq_true, if_false, List.append_nil]
    rfl
  | some sink' =>
    simp only [sink, run_bind, put, Option.isSome_some, if_true, Option.bind_some]
    cases sink'.respond s.trail.offered r <;> rfl

def handedOver (a : Ambient) (r : FailureRecord) (s : Scene) : Scene :=
  if a.settings.deadLetterEnabled then
    { trail :=
        { journal := s.trail.journal ++ [keptEntry r]
          offered := s.trail.offered ++ if s.context.sink.isSome then [r] else [] }
      context := s.context.countFailure.keep r }
  else { s with context := s.context.countFailure }.note (droppedEntry r)

theorem run_deadLetter (a : Ambient) (r : FailureRecord) (s : Scene) :
    (deadLetter a r).run.run s = (answered ((s.route a).answer r), handedOver a r s) := by
  by_cases on : a.settings.deadLetterEnabled = true
  · simp only [deadLetter, handedOver, Route.answer, Scene.route, on, if_true, run_bind, run_change,
      run_note, run_offer]
    rfl
  · simp only [deadLetter, handedOver, Route.answer, Scene.route, on, run_bind, run_change]
    rfl

/-- The context counts the record, and keeps it or not, before the sink may raise. -/
theorem handsOver_handedOver (a : Ambient) (r : FailureRecord) (s : Scene) :
    HandsOver a s (handedOver a r s) [r] := by
  by_cases on : a.settings.deadLetterEnabled = true
  · constructor
    · simp [handedOver, Context.handed, Context.keep, Context.countFailure, on]
    · cases sink : s.context.sink <;>
        simp [handedOver, Scene.route, Route.after, Context.keep, Context.countFailure, on, sink]
    · simp [handedOver, sentEntry, on, Trail.deadLetters, keptEntry, Entry.attempt]
  · constructor
    · simp [handedOver, Context.handed, Context.countFailure, Scene.note, on]
    · simp [handedOver, Scene.route, Route.after, Scene.note, Trail.note, Context.countFailure, on]
    · simp [handedOver, sentEntry, on, Trail.deadLetters, droppedEntry, Entry.attempt, Scene.note,
        Trail.note]

end Work

end RecordPipeline
