import RecordPipeline.Proofs.Pipeline.Repeating
import RecordPipeline.Proofs.Pipeline.Stopping
set_option autoImplicit false

namespace RecordPipeline

namespace Pipeline

open Value (putEntry)

/-- Processors by plugin id: the ids in the order in which they first occur, and under each the last
processor that has it. -/
def keyed : List Processor → List (Value × Processor)
  | [] => []
  | proc :: rest =>
    (proc.pluginId, (rest.findRev? fun q => q.pluginId.sameKey proc.pluginId).getD proc) ::
      (keyed rest).filter fun e => !e.1.sameKey proc.pluginId

section Keyed

variable {procs : List Processor} {proc : Processor} {e : Value × Processor}

theorem mem_of_mem_keyed (h : e ∈ keyed procs) : (∃ q ∈ procs, e.1 = q.pluginId) ∧ e.2 ∈ procs := by
  induction procs with
  | nil => cases h
  | cons proc rest ih =>
    rcases List.mem_cons.mp h with rfl | later
    · refine ⟨⟨proc, List.mem_cons_self, rfl⟩, ?_⟩
      cases last : rest.findRev? fun q => q.pluginId.sameKey proc.pluginId with
      | none => exact List.mem_cons_self
      | some q =>
        rw [List.findRev?_eq_find?_reverse] at last
        exact List.mem_cons_of_mem _ (List.mem_reverse.mp (List.mem_of_find?_eq_some last))
    · obtain ⟨⟨q, hq, key⟩, value⟩ := ih (List.mem_filter.mp later).1
      exact ⟨⟨q, List.mem_cons_of_mem _ hq, key⟩, List.mem_cons_of_mem _ value⟩

theorem keyed_append (keys : ∀ q ∈ procs, q.pluginId.keyFault? = none)
    (key : proc.pluginId.keyFault? = none) :
    keyed (procs ++ [proc]) = putEntry proc.pluginId proc (keyed procs) := by
  induction procs with
  | nil => rfl
  | cons first rest ih =>
    obtain ⟨firstKey, others⟩ := List.forall_mem_cons.mp keys
    have restKey : ∀ e ∈ keyed rest, e.1.keyFault? = none := by
      intro e he
      obtain ⟨q, hq, same⟩ := (mem_of_mem_keyed he).1
      rw [same]
      exact others q hq
    by_cases same : proc.pluginId.sameKey first.pluginId = true
    · have back := Value.sameKey_symm key same
      -- it becomes the last one under the first id, and under no other
      have dropped := Value.filter_putEntry_of_dropped (fun k => !k.sameKey first.pluginId)
        (by rw [same]; rfl)
        (fun e he hk => by rw [Value.sameKey_trans (restKey e he) hk same]; rfl) proc
      simp [keyed, ih others, putEntry, same, back, dropped]
    · have back : ¬ first.pluginId.sameKey proc.pluginId = true := fun h =>
        same (Value.sameKey_symm firstKey h)
      have apart : ∀ e ∈ keyed rest, e.1.sameKey proc.pluginId = true →
          ¬ e.1.sameKey first.pluginId = true := fun e he hk h =>
        same (Value.sameKey_trans key (Value.sameKey_symm (restKey e he) hk) h)
      have kept := Value.filter_putEntry_of_kept (fun k => !k.sameKey first.pluginId)
        (by simpa using same) (fun e he hk => by simpa using apart e he hk) proc
      simp [keyed, ih others, putEntry, same, back, kept]

end Keyed

inductive Use where
  | register (proc : Processor)
  | run (a : Ambient) (records : Option Value) (t : Trail)

def use (p : Pipeline) : Use → Pipeline
  | .register proc => (p.register proc).2.1
  | .run a records t => (p.run a records t).2.1

def uses (p : Pipeline) (us : List Use) : Pipeline := us.foldl use p

/-- The processors whose registrations were accepted, in order. -/
def accepted (p : Pipeline) : List Use → List Processor
  | [] => []
  | .register proc :: us =>
    match (p.register proc).1 with
    | .ok () => proc :: (p.register proc).2.1.accepted us
    | .error _ => (p.register proc).2.1.accepted us
  | .run a records t :: us => (p.run a records t).2.1.accepted us

section Fresh

theorem fresh_process (p : Processor) (a : Ambient) (data : Value) (s : Scene) :
    (p.process a data s).2.1.fresh = p.fresh := by
  obtain ⟨p', left, same⟩ := Processor.process_of_fresh_eq (p := p) rfl a data s
  rw [left]
  exact same

theorem fresh_step (p : Pipeline) (a : Ambient) (plugin : Value) (proc : Processor) (g : Progress) :
    (p.step a plugin proc g).1.fresh = proc.fresh :=
  fresh_process proc a g.data (p.call plugin proc g).scene

theorem freshAll_steps (p : Pipeline) (a : Ambient) (procs : List (Value × Processor)) (g : Progress) :
    freshAll (p.steps a procs g).1 = freshAll procs := by
  induction procs generalizing g with
  | nil => rfl
  | cons head rest ih =>
    obtain ⟨plugin, proc⟩ := head
    have first := p.fresh_step a plugin proc g
    rcases step : p.step a plugin proc g with ⟨proc', g', _ | exit⟩
    · rw [step] at first
      have others := ih g'
      simp only [freshAll] at others
      simp [steps, step, freshAll, first, others]
    · rw [step] at first
      simp [steps, step, freshAll, first]

theorem freshAll_run (p : Pipeline) (a : Ambient) (records : Option Value) (t : Trail) :
    freshAll (p.run a records t).2.1.processors = freshAll p.processors := by
  obtain ⟨procs, r, left, rfl | ⟨g, rfl⟩⟩ := p.run_eq a records t
  · rw [left]
  · rw [left]
    exact p.freshAll_steps a p.processors g

end Fresh

section Uses

variable {p : Pipeline} {us : List Use}

theorem activator_use (p : Pipeline) (u : Use) : (p.use u).activator = p.activator := by
  cases u with
  | register proc =>
    obtain ⟨-, -, left⟩ | ⟨-, -, -, left⟩ := p.register_cases proc <;> rw [use, left]
  | run a records t =>
    obtain ⟨procs, r, left, -⟩ := p.run_eq a records t
    rw [use, left]

theorem activator_uses (p : Pipeline) (us : List Use) : (p.uses us).activator = p.activator := by
  induction us generalizing p with
  | nil => rfl
  | cons u us ih => exact (ih (p.use u)).trans (p.activator_use u)

theorem admits_of_mem_accepted {proc : Processor} (h : proc ∈ p.accepted us) :
    p.activator.Admits proc.pipelineVersion := by
  induction us generalizing p with
  | nil => cases h
  | cons u us ih =>
    cases u with
    | register first =>
      rw [← p.activator_use (.register first)]
      obtain ⟨⟨admits, -⟩, outcome, -⟩ | ⟨-, fault, outcome, -⟩ := p.register_cases first
      · simp only [accepted, outcome] at h
        rcases List.mem_cons.mp h with rfl | later
        · rwa [activator_use]
        · exact ih later
      · simp only [accepted, outcome] at h
        exact ih h
    | run a records t =>
      rw [← p.activator_use (.run a records t)]
      exact ih h

theorem map_processors_uses {β : Type} (view : Processor → β)
    (ran : ∀ a records t, .run a records t ∈ us → ∀ q : Pipeline,
      (q.run a records t).2.1.processors.map (fun e => (e.1, view e.2)) =
        q.processors.map fun e => (e.1, view e.2))
    {earlier : List Processor} (keys : ∀ q ∈ earlier, q.pluginId.keyFault? = none)
    (start : p.processors.map (fun e => (e.1, view e.2)) =
      (keyed earlier).map fun e => (e.1, view e.2)) :
    (p.uses us).processors.map (fun e => (e.1, view e.2)) =
      (keyed (earlier ++ p.accepted us)).map fun e => (e.1, view e.2) := by
  induction us generalizing p earlier with
  | nil =>
    rw [accepted, List.append_nil]
    exact start
  | cons u us ih =>
    have later := fun a records t h => ran a records t (List.mem_cons_of_mem u h)
    cases u with
    | register proc =>
      obtain ⟨⟨-, key⟩, outcome, left⟩ | ⟨-, fault, outcome, left⟩ := p.register_cases proc
      · have put : (putEntry proc.pluginId proc p.processors).map (fun e => (e.1, view e.2)) =
            (keyed (earlier ++ [proc])).map fun e => (e.1, view e.2) := by
          rw [keyed_append keys key, Value.map_putEntry, Value.map_putEntry, start]
        have keys' : ∀ q ∈ earlier ++ [proc], q.pluginId.keyFault? = none :=
          List.forall_mem_append.mpr ⟨keys, List.forall_mem_singleton.mpr key⟩
        have last := ih (p := { p with processors := putEntry proc.pluginId proc p.processors }) later
          keys' put
        rw [List.append_assoc] at last
        simp only [uses, List.foldl_cons, use, accepted, outcome, left]
        exact last
      · simp only [uses, List.foldl_cons, use, accepted, outcome, left]
        exact ih later keys start
    | run a records t =>
      exact ih later keys ((ran a records t List.mem_cons_self p).trans start)

/-- What registrations and runs keep of a pipeline: its processors are those that were accepted, by
plugin id; a registration that is refused changes nothing; and whatever a run calls has passed the
gate. -/
structure Guarded (p : Pipeline) (us : List Use) : Prop where
  kept : freshAll (p.uses us).processors = freshAll (keyed (p.accepted us))
  unused : (∀ a records t, .run a records t ∉ us) → (p.uses us).processors = keyed (p.accepted us)
  refused : ∀ proc fault, ((p.uses us).register proc).1 = .error fault → ((p.uses us).register proc).2.1 = p.uses us
  accepted_iff : ∀ proc, ((p.uses us).register proc).1 = .ok () ↔
    p.activator.Admits proc.pipelineVersion ∧ proc.pluginId.keyFault? = none
  admitted : ∀ e ∈ (p.uses us).processors, p.activator.Admits e.2.pipelineVersion
  called : ∀ a data n t, ∀ c ∈ (p.uses us).callsOn a data n t,
    p.activator.Admits c.processor.pipelineVersion ∧ ∃ proc ∈ p.accepted us, c.processor.fresh = proc.fresh

end Uses

theorem exists_of_mem_freshAll_eq {procs procs' : List (Value × Processor)}
    (same : freshAll procs = freshAll procs') {e : Value × Processor} (h : e ∈ procs) :
    ∃ e' ∈ procs', e.2.fresh = e'.2.fresh := by
  have here : (e.1, e.2.fresh) ∈ freshAll procs' := same ▸ List.mem_map_of_mem h
  obtain ⟨e', he', equal⟩ := List.mem_map.mp here
  exact ⟨e', he', (Prod.mk.inj equal).2.symm⟩

theorem guarded_of_uses {p : Pipeline} (empty : p.processors = []) (us : List Use) : Guarded p us := by
  have kept : freshAll (p.uses us).processors = freshAll (keyed (p.accepted us)) :=
    @map_processors_uses p us _ Processor.fresh (fun a records t _ q => q.freshAll_run a records t) []
      (by simp) (by rw [empty]; rfl)
  have origin : ∀ e ∈ (p.uses us).processors, ∃ proc ∈ p.accepted us, e.2.fresh = proc.fresh := by
    intro e he
    obtain ⟨e', he', same⟩ := exists_of_mem_freshAll_eq kept he
    exact ⟨e'.2, (mem_of_mem_keyed he').2, same⟩
  have admitted : ∀ e ∈ (p.uses us).processors, p.activator.Admits e.2.pipelineVersion := by
    intro e he
    obtain ⟨proc, accepted, same⟩ := origin e he
    have version : e.2.pipelineVersion = proc.pipelineVersion :=
      (congrArg (fun r : Processor => r.pipelineVersion) same :)
    rw [version]
    exact admits_of_mem_accepted accepted
  refine ⟨kept, fun unused => ?_, fun proc fault refused => ?_, fun proc => ?_, admitted,
    fun a data n t c hc => ?_⟩
  · have same := @map_processors_uses p us _ (fun proc => proc)
      (fun a records t ran => absurd ran (unused a records t)) []
      (by simp) (by rw [empty]; rfl)
    simpa using same
  · exact register_of_error refused
  · rw [register_eq_ok_iff, activator_uses]
  · have present : (c.plugin, c.processor) ∈ (p.uses us).processors := by
      have called := (p.uses us).map_calls a (p.uses us).processors ((p.uses us).start a data n t)
      exact List.mem_of_mem_take (called ▸ List.mem_map_of_mem hc)
    exact ⟨admitted _ present, origin _ present⟩

theorem guarded_of_uses_mapper :
    let mapper (id version : String) := FieldMapping.processor
      (FieldMapping.identity (.text id) (.text version)) [(.text "speed", .integer)]
    let p : Pipeline := { name := "telemetry", id := "0", activator := { enforce := true } }
    let a : Ambient := { now := .epoch, settings := .unset }
    let us : List Use := [.register (mapper "a" "2.1"), .register (mapper "b" "3.0"),
      .run a (some (.list [])) {}, .register (mapper "a" "2")]
    Guarded p us ∧ (p.uses us).processors.map (fun e => (e.1, e.2.pipelineVersion)) =
      [(.text "a", .text "2")] := by
  intro mapper p a us
  exact ⟨guarded_of_uses rfl us, rfl⟩

end Pipeline

end RecordPipeline
