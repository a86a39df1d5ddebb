import Mathlib.Data.List.Basic
import RecordPipeline.Proofs.Scene
set_option autoImplicit false

namespace RecordPipeline

namespace Context

/-- What is done to a family of contexts, which stand in the order in which they were made. -/
inductive Act where
  | new (pipelineName : Value) (sink : Option Sink)
  | child (parent : Nat) (processorName : String)
  | error (place : Nat) (message : String)
  | warning (place : Nat) (message : String)
  | deadLetter (place : Nat) (a : Ambient) (offered : List FailureRecord) (r : FailureRecord)
  | merge (into source : Nat) (apart : into ≠ source)

def left (c : Context) (offered : List FailureRecord) (w : Work Unit) : Context :=
  (w.run.run { trail := { offered }, context := c }).2.context

namespace Act

def perform (cs : List Context) : Act → List Context
  | .new pipelineName sink => cs ++ [({ pipelineName, sink } : Context)]
  | .child parent processorName => cs ++ (cs[parent]?.map fun c => c.child processorName).toList
  | .error place message => cs.modify place fun c => c.left [] (Work.addError message)
  | .warning place message => cs.modify place fun c => c.left [] (Work.addWarning message)
  | .deadLetter place a offered r => cs.modify place fun c => c.left offered (Work.deadLetter a r)
  | .merge into source _ =>
    match cs[source]? with
    | some c => cs.modify into fun p => p.merge c
    | none => cs

/-- Everything but handing a record over while routing is off. -/
def Routed : Act → Prop
  | .deadLetter _ a _ _ => a.settings.deadLetterEnabled = true
  | _ => True

end Act

/-- Counters that tell what the context holds. Nothing is missing from its failure records if
routing has been on. -/
structure Counted (routed : Prop) (c : Context) : Prop where
  errors : c.metadata.errorsCount = c.errors.length
  warnings : c.metadata.warningsCount = c.warnings.length
  failed : c.failureRecords.length ≤ c.metadata.recordsFailed
  kept : routed → c.metadata.recordsFailed = c.failureRecords.length

section Operations

variable {routed : Prop} {c : Context}

theorem counted_new (pipelineName : Value) (sink : Option Sink) : Counted routed { pipelineName, sink } :=
  ⟨rfl, rfl, Nat.le_refl _, fun _ => rfl⟩

theorem counted_child (c : Context) (processorName : String) : Counted routed (c.child processorName) :=
  ⟨rfl, rfl, Nat.le_refl _, fun _ => rfl⟩

theorem Counted.addError (h : Counted routed c) (message : String) : Counted routed (c.addError message) :=
  ⟨rfl, h.warnings, h.failed, h.kept⟩

theorem Counted.addWarning (h : Counted routed c) (message : String) : Counted routed (c.addWarning message) :=
  ⟨h.errors, rfl, h.failed, h.kept⟩

theorem Counted.handed {enabled : Bool} (h : Counted routed c) (on : routed → enabled = true)
    (rs : List FailureRecord) : Counted routed (c.handed enabled rs) where
  errors := h.errors
  warnings := h.warnings
  failed := by
    have failed := h.failed
    cases enabled <;> simp only [Context.handed, List.length_append, if_true, Bool.false_eq_true, if_false,
      List.length_nil] <;> omega
  kept given := by
    have kept := h.kept given
    simp only [Context.handed, on given, if_true, List.length_append, kept]

theorem Counted.merge {child : Context} (h : Counted routed c) (h' : Counted routed child) :
    Counted routed (c.merge child) where
  errors := rfl
  warnings := rfl
  failed := by
    simp only [Context.merge, List.length_append]
    exact Nat.add_le_add h.failed h'.failed
  kept given := by simp only [Context.merge, List.length_append, h.kept given, h'.kept given]

theorem left_deadLetter (c : Context) (a : Ambient) (offered : List FailureRecord) (r : FailureRecord) :
    c.left offered (Work.deadLetter a r) = c.handed a.settings.deadLetterEnabled [r] := by
  rw [left, Work.run_deadLetter]
  exact (Work.handsOver_handedOver a r _).context

end Operations

section Family

variable {routed : Prop} {cs : List Context}

theorem counted_modify (h : ∀ c ∈ cs, Counted routed c) {f : Context → Context}
    (change : ∀ c, Counted routed c → Counted routed (f c)) (place : Nat) :
    ∀ c ∈ cs.modify place f, Counted routed c := by
  intro c member
  obtain ⟨i, within, rfl⟩ := List.getElem_of_mem member
  rw [List.length_modify] at within
  have here : Counted routed cs[i] := h _ (List.getElem_mem within)
  rw [List.getElem_modify]
  split
  · exact change _ here
  · exact here

theorem counted_perform (h : ∀ c ∈ cs, Counted routed c) (act : Act) (on : routed → act.Routed) :
    ∀ c ∈ act.perform cs, Counted routed c := by
  cases act with
  | new pipelineName sink =>
    intro c member
    rcases List.mem_append.mp member with old | made
    · exact h c old
    · cases List.mem_singleton.mp made
      exact counted_new pipelineName sink
  | child parent processorName =>
    intro c member
    rcases List.mem_append.mp member with old | made
    · exact h c old
    · obtain ⟨p, -, rfl⟩ := Option.map_eq_some_iff.mp (Option.mem_toList.mp made)
      exact counted_child p processorName
  | error place message => exact counted_modify h (fun c counted => counted.addError message) place
  | warning place message => exact counted_modify h (fun c counted => counted.addWarning message) place
  | deadLetter place a offered r =>
    refine counted_modify h (fun c counted => ?_) place
    rw [left_deadLetter]
    exact counted.handed on [r]
  | merge into source apart =>
    simp only [Act.perform]
    split
    · rename_i c found
      exact counted_modify h (fun p counted => counted.merge (h c (List.mem_of_getElem? found))) into
    · exact h

theorem counted_foldl (h : ∀ c ∈ cs, Counted routed c) {acts : List Act}
    (on : routed → ∀ act ∈ acts, act.Routed) : ∀ c ∈ acts.foldl Act.perform cs, Counted routed c := by
  induction acts generalizing cs with
  | nil => exact h
  | cons act acts ih =>
    have first := counted_perform h act fun given => on given act List.mem_cons_self
    exact ih first fun given later member => on given later (List.mem_cons_of_mem act member)

/-- Whatever is done from the start, each context of the family counts the errors and the warnings
that it holds and no fewer failure records than it holds, and just as many if routing was on
whenever a record was handed over. -/
theorem counters_tell {acts : List Act} {c : Context} (made : c ∈ acts.foldl Act.perform []) :
    c.metadata.errorsCount = c.errors.length ∧ c.metadata.warningsCount = c.warnings.length ∧
      c.failureRecords.length ≤ c.metadata.recordsFailed ∧
      ((∀ act ∈ acts, act.Routed) → c.metadata.recordsFailed = c.failureRecords.length) := by
  have counted := @counted_foldl (∀ act ∈ acts, act.Routed) [] (by simp) acts id c made
  exact ⟨counted.errors, counted.warnings, counted.failed, counted.kept⟩

theorem counters_tell_full_sink :
    let r : FailureRecord :=
      { pluginId := .text "mapper-1", pluginName := .text "field_mapping", pipelineName := .text "telemetry"
        failedData := .text "x", timestamp := "2024-03-05T07:08:09.123Z" }
    let acts : List Act :=
      [.new (.text "telemetry") (some (Sink.failAfter 0 "full")), .child 0 "field_mapping",
        .deadLetter 1 { now := .epoch, settings := .unset } [] r, .error 1 "full", .merge 0 1 (by decide),
        .merge 0 1 (by decide)]
    ∃ c ∈ acts.foldl Act.perform [], c.errors = ["full", "full"] ∧ c.failureRecords = [r, r] ∧
      c.metadata.errorsCount = 2 ∧ c.metadata.recordsFailed = 2 := by
  intro r acts
  let c := (acts.foldl Act.perform [])[0]
  have made : c ∈ acts.foldl Act.perform [] := List.getElem_mem _
  have routed : ∀ act ∈ acts, act.Routed := by simp [acts, Act.Routed, Settings.unset]
  obtain ⟨errors, -, -, kept⟩ := counters_tell made
  exact ⟨c, made, rfl, rfl, errors, kept routed⟩

end Family

end Context

end RecordPipeline
