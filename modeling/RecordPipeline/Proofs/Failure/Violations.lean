import RecordPipeline.Proofs.Failure.Build
set_option autoImplicit false

/-!
The rules of failure records and what violates them. Checking a draft reports the violations of its
fields in their order, making a record those and the one of the timestamp after them, and the first
violation decides how a record is refused.
-/

namespace RecordPipeline

namespace Failure

def Field.IsIdentity (field : Field) : Prop := field ∈ [Field.pluginId, .pluginName, .pipelineName]

instance (field : Field) : Decidable field.IsIdentity := inferInstanceAs (Decidable (_ ∈ _))

/-- A field breaks the rules with a value. -/
inductive Breaks : Field → Value → Violation → Prop
  | missing (field : Field) : Breaks field .null (.missing field)
  | empty {field : Field} {v : Value} {s : String} (identity : field.IsIdentity) (plain : v.plain = .ok s)
      (blank : Text.isBlankText s = true) : Breaks field v (.empty field)
  | misshapen {s : String} (invalid : Timestamp.isValid s = false) : Breaks .timestamp (.text s) (.misshapen s)

/-- The violations of fields with their values, in the order of the fields. -/
inductive Reports : List (Field × Value) → List Violation → Prop
  | nil : Reports [] []
  | keeps {field : Field} {v : Value} {fields : List (Field × Value)} {vs : List Violation}
      (sound : ∀ x, ¬ Breaks field v x) (others : Reports fields vs) : Reports ((field, v) :: fields) vs
  | breaks {field : Field} {v : Value} {x : Violation} {fields : List (Field × Value)} {vs : List Violation}
      (broken : Breaks field v x) (others : Reports fields vs) : Reports ((field, v) :: fields) (x :: vs)

/-- Violations refuse a record: it lacks something if that is the first of them, and has something
invalid otherwise. -/
inductive Refuses : List Violation → RecordFault → Prop
  | missing {first : Violation} {others : List Violation} (kind : first.kind = .missing) :
      Refuses (first :: others) (.missing (first :: others))
  | invalid {first : Violation} {others : List Violation} (kind : first.kind = .invalid) :
      Refuses (first :: others) (.invalid (first :: others))

section Rules

variable {field : Field} {v : Value} {x y : Violation}

theorem Breaks.unique (h : Breaks field v x) (h' : Breaks field v y) : x = y := by
  cases h with
  | missing =>
    cases h' with
    | missing => rfl
    | empty identity plain blank =>
      cases plain
      exact absurd blank (by decide)
  | empty identity plain blank =>
    cases h' with
    | missing =>
      cases plain
      exact absurd blank (by decide)
    | empty => rfl
    | misshapen => exact absurd identity (by decide)
  | misshapen =>
    cases h' with
    | empty identity => exact absurd identity (by decide)
    | misshapen => rfl

theorem Reports.unique {fields : List (Field × Value)} {vs ws : List Violation} (h : Reports fields vs)
    (h' : Reports fields ws) : vs = ws := by
  induction h generalizing ws with
  | nil =>
    cases h'
    rfl
  | keeps sound _ ih =>
    cases h' with
    | keeps _ others => exact ih others
    | breaks broken => exact absurd broken (sound _)
  | breaks broken _ ih =>
    cases h' with
    | keeps sound => exact absurd broken (sound _)
    | breaks broken' others => rw [broken.unique broken', ih others]

theorem Reports.append {fields others : List (Field × Value)} {vs ws : List Violation} (h : Reports fields vs)
    (h' : Reports others ws) : Reports (fields ++ others) (vs ++ ws) := by
  induction h with
  | nil => exact h'
  | keeps sound _ ih => exact .keeps sound ih
  | breaks broken _ ih => exact .breaks broken ih

theorem reports_of_breaks (broken : Breaks field v x) : Reports [(field, v)] [x] := .breaks broken .nil

theorem reports_of_sound (sound : ∀ x, ¬ Breaks field v x) : Reports [(field, v)] [] := .keeps sound .nil

end Rules

section Draft

variable {d : Draft}

theorem exists_checkIdentity {field : Field} (identity : field.IsIdentity) {v : Value}
    (written : ∃ s, v.plain = .ok s) : ∃ vs, checkIdentity field v = .ok vs ∧ Reports [(field, v)] vs := by
  obtain ⟨s, plain⟩ := written
  by_cases there : v = .null
  · subst there
    exact ⟨_, rfl, reports_of_breaks (.missing field)⟩
  · have checked : checkIdentity field v = .ok (if Text.isBlankText s = true then [.empty field] else []) := by
      cases v <;> simp_all [checkIdentity, bind, Except.bind, pure, Except.pure]
    rw [checked]
    refine ⟨_, rfl, ?_⟩
    split
    · rename_i blank
      exact reports_of_breaks (.empty identity plain blank)
    · rename_i full
      refine reports_of_sound fun x broken => ?_
      cases broken with
      | missing => exact there rfl
      | empty _ plain' blank =>
        rw [plain] at plain'
        cases plain'
        exact full blank
      | misshapen => exact absurd identity (by decide)

theorem reports_checkPayload (v : Value) : Reports [(.failedData, v)] (checkPayload v) := by
  unfold checkPayload
  split
  · exact reports_of_breaks (.missing .failedData)
  · rename_i there
    refine reports_of_sound fun x broken => ?_
    cases broken with
    | missing => exact there rfl
    | empty identity => exact absurd identity (by decide)

def Draft.fields (d : Draft) : List (Field × Value) :=
  [(.pluginId, d.pluginId), (.pluginName, d.pluginName), (.pipelineName, d.pipelineName),
    (.failedData, d.failedData)]

/-- The identity fields can be written, so that it can be seen whether they are blank. -/
def Draft.IsWritten (d : Draft) : Prop :=
  ∀ field v, (field, v) ∈ d.fields → field.IsIdentity → ∃ s, v.plain = .ok s

theorem Draft.exists_validate (written : d.IsWritten) : ∃ vs, d.validate = .ok vs ∧ Reports d.fields vs := by
  have identity (field : Field) (v : Value) (member : (field, v) ∈ d.fields) (identity : field.IsIdentity) :=
    exists_checkIdentity identity (written field v member identity)
  obtain ⟨a, checkedA, reportsA⟩ := identity .pluginId d.pluginId (by simp [fields]) (by decide)
  obtain ⟨b, checkedB, reportsB⟩ := identity .pluginName d.pluginName (by simp [fields]) (by decide)
  obtain ⟨c, checkedC, reportsC⟩ := identity .pipelineName d.pipelineName (by simp [fields]) (by decide)
  have reports := reportsA.append (reportsB.append (reportsC.append (reports_checkPayload d.failedData)))
  refine ⟨a ++ b ++ c ++ checkPayload d.failedData, ?_, ?_⟩
  · simp [validate, checkedA, checkedB, checkedC, bind, Except.bind, pure, Except.pure]
  · simpa [fields, List.append_assoc] using reports

end Draft

section Refusal

variable {vs : List Violation} {fault : RecordFault}

theorem refuses_cons_iff {first : Violation} {others : List Violation} :
    Refuses (first :: others) fault ↔ fault = FailureRecord.faultOf first others := by
  constructor
  · intro h
    cases h with
    | missing kind => simp [FailureRecord.faultOf, kind]
    | invalid kind => simp [FailureRecord.faultOf, kind]
  · rintro rfl
    cases kind : first.kind with
    | missing => simpa [FailureRecord.faultOf, kind] using Refuses.missing kind
    | invalid => simpa [FailureRecord.faultOf, kind] using Refuses.invalid kind

theorem not_refuses_nil : ¬ Refuses [] fault := nofun

theorem Refuses.violations (h : Refuses vs fault) : fault.violations = vs := by cases h <;> rfl

theorem Refuses.message (h : Refuses vs fault) : fault.message = "; ".intercalate (vs.map Violation.message) := by
  cases h <;> rfl

theorem exists_refuses_iff : (∃ fault, Refuses vs fault) ↔ vs ≠ [] := by
  cases vs with
  | nil => simp [not_refuses_nil]
  | cons first others => exact iff_of_true ⟨_, refuses_cons_iff.mpr rfl⟩ (List.cons_ne_nil first others)

/-- The outcome that violations lead to: a refusal that carries all of them, or a record if there
are none. -/
structure Follows (vs : List Violation) (IsRecord : FailureRecord → Prop)
    (outcome : Except RecordFault FailureRecord) :
    Prop where
  made : ∀ r, outcome = .ok r ↔ vs = [] ∧ IsRecord r
  raises : (∃ fault, outcome = .error fault) ↔ vs ≠ []
  refused : ∀ fault, outcome = .error fault ↔ Refuses vs fault
  violations : ∀ fault, outcome = .error fault → fault.violations = vs
  message : ∀ fault, outcome = .error fault → fault.message = "; ".intercalate (vs.map Violation.message)

theorem Follows.of {IsRecord : FailureRecord → Prop} {outcome : Except RecordFault FailureRecord}
    (made : ∀ r, outcome = .ok r ↔ vs = [] ∧ IsRecord r)
    (refused : ∀ fault, outcome = .error fault ↔ Refuses vs fault) :
    Follows vs IsRecord outcome :=
  { made, refused
    raises := by simp only [refused, exists_refuses_iff]
    violations := fun fault error => ((refused fault).mp error).violations
    message := fun fault error => ((refused fault).mp error).message }

end Refusal

end Failure

namespace FailureRecord

open Failure (Draft Follows Reports Violation)

def ofDraft (d : Draft) (timestamp : String) : FailureRecord :=
  { pluginId := d.pluginId
    pluginName := d.pluginName
    pipelineName := d.pipelineName
    failedData := d.failedData
    timestamp }

section Timestamp

variable {given : Value}

def violation? : Except Violation String → List Violation
  | .ok _ => []
  | .error v => [v]

theorem exists_checkTimestamp (known : given = .null ∨ ∃ s, given = .text s) :
    ∃ checked, checkTimestamp given = .ok checked ∧ Reports [(.timestamp, given)] (violation? checked) ∧
      ∀ s, checked = .ok s → given = .text s := by
  rcases known with rfl | ⟨s, rfl⟩
  · exact ⟨_, rfl, Failure.reports_of_breaks (.missing .timestamp), nofun⟩
  · refine ⟨_, checkTimestamp_text s, ?_, fun t taken => ?_⟩
    · cases valid : Timestamp.isValid s with
      | false => exact Failure.reports_of_breaks (.misshapen valid)
      | true =>
        refine Failure.reports_of_sound fun x broken => ?_
        cases broken with
        | empty identity => exact absurd identity (by decide)
        | misshapen invalid =>
          rw [valid] at invalid
          cases invalid
    · split at taken
      · cases taken
        rfl
      · cases taken

end Timestamp

section Outcome

variable {d : Draft} {vs : List Violation}

theorem make_eq {given : Value} {checked : Except Violation String} (found : d.validate = .ok vs)
    (stamp : checkTimestamp given = .ok checked) :
    make d given = match vs ++ violation? checked, checked with
      | first :: others, _ => .error (faultOf first others)
      | [], .ok s => .ok (ofDraft d s)
      | [], .error last => .error (faultOf last []) := by
  cases vs <;> cases checked <;>
    simp [make, found, stamp, violation?, ofDraft, Except.mapError, bind, Except.bind, pure, Except.pure]

theorem follows_make {given : Value} {checked : Except Violation String} (found : d.validate = .ok vs)
    (stamp : checkTimestamp given = .ok checked) :
    Follows (vs ++ violation? checked) (fun r => ∃ s, checked = .ok s ∧ r = ofDraft d s) (make d given) := by
  rw [make_eq found stamp]
  cases vs with
  | cons first others => exact .of (by simp) (by simp [Failure.refuses_cons_iff, @eq_comm RecordFault _])
  | nil =>
    cases checked with
    | error last =>
      exact .of (by simp [violation?]) (by simp [violation?, Failure.refuses_cons_iff, @eq_comm RecordFault _])
    | ok s =>
      exact .of (by simp [violation?, @eq_comm FailureRecord _]) (by simp [violation?, Failure.not_refuses_nil])

theorem exists_follows_make {given : Value} (found : d.validate = .ok vs)
    (known : given = .null ∨ ∃ s, given = .text s) :
    ∃ late, Reports [(.timestamp, given)] late ∧
      Follows (vs ++ late) (fun r => ∃ s, given = .text s ∧ r = ofDraft d s) (make d given) := by
  obtain ⟨checked, stamp, reports, taken⟩ := exists_checkTimestamp known
  have follows := follows_make found stamp
  refine ⟨_, reports, .of (fun r => ?_) follows.refused⟩
  rw [follows.made]
  refine and_congr_right fun none => exists_congr fun s => and_congr_left fun _ => ⟨taken s, fun text => ?_⟩
  cases checked with
  | error last => simp [violation?] at none
  | ok t =>
    rw [taken t rfl] at text
    cases text
    rfl

theorem follows_build {now : Moment} (found : d.validate = .ok vs) (year : 1000 ≤ now.year) :
    Follows vs (fun r => r = d.stamped now) (build d now) := by
  cases vs with
  | nil =>
    rw [build_eq_ok found year]
    exact .of (by simp [@eq_comm FailureRecord _]) (by simp [Failure.not_refuses_nil])
  | cons first others =>
    rw [build_of_violations found]
    exact .of (by simp) (by simp [Failure.refuses_cons_iff, @eq_comm RecordFault _])

end Outcome

end FailureRecord

end RecordPipeline
