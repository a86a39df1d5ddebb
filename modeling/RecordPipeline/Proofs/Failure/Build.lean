import Mathlib.Data.List.Basic
import RecordPipeline.Failure.Record
import RecordPipeline.Proofs.Moment.Timestamp
set_option autoImplicit false

namespace RecordPipeline

namespace Failure

def Violation.misshapen (text : String) : Violation :=
  { field := .timestamp, kind := .invalid, message := "timestamp '" ++ text ++ "' is not yyyy-MM-ddTHH:mm:ss.SSSZ" }

/-- What an identity field takes: something that is there and whose text is not blank. -/
def IsName (v : Value) : Prop := v ≠ .null ∧ ∃ s, v.plain = .ok s ∧ Text.isBlankText s = false

theorem isName_text {s : String} (h : Text.isBlankText s = false) : IsName (.text s) :=
  ⟨by simp, s, rfl, h⟩

theorem checkIdentity_of_isName {v : Value} (h : IsName v) (field : Field) :
    checkIdentity field v = .ok [] := by
  obtain ⟨there, s, plain, full⟩ := h
  cases v
  case null => exact absurd rfl there
  all_goals simp [checkIdentity, plain, full, bind, Except.bind, pure, Except.pure]

def Draft.stamped (d : Draft) (now : Moment) : FailureRecord :=
  { pluginId := d.pluginId
    pluginName := d.pluginName
    pipelineName := d.pipelineName
    failedData := d.failedData
    timestamp := Timestamp.format now }

theorem Draft.validate_eq_nil {d : Draft} (pluginId : IsName d.pluginId)
    (pluginName : IsName d.pluginName) (pipelineName : IsName d.pipelineName)
    (payload : d.failedData ≠ .null) : d.validate = .ok [] := by
  have whole : checkPayload d.failedData = [] := by
    unfold checkPayload
    split
    · contradiction
    · rfl
  simp [Draft.validate, checkIdentity_of_isName, pluginId, pluginName, pipelineName, whole, bind,
    Except.bind, pure, Except.pure]

end Failure

namespace FailureRecord

open Failure (Draft IsName Violation)

theorem checkTimestamp_text (s : String) :
    checkTimestamp (.text s) = .ok (if Timestamp.isValid s then .ok s else .error (.misshapen s)) := by
  cases valid : Timestamp.isValid s <;>
    simp [checkTimestamp, Value.plain, valid, Violation.misshapen, bind, Except.bind, pure, Except.pure]

section Build

variable {d : Draft} {now : Moment}

theorem build_of_violations {first : Violation} {others : List Violation}
    (found : d.validate = .ok (first :: others)) :
    build d now = .error (faultOf first others) := by
  simp [build, found, judge, Except.mapError, bind, Except.bind]

theorem build_of_sound (sound : d.validate = .ok []) : build d now =
    if Timestamp.isValid (Timestamp.format now) then .ok (d.stamped now)
    else .error (.invalid [.misshapen (Timestamp.format now)]) := by
  cases valid : Timestamp.isValid (Timestamp.format now) <;>
    simp [build, make, sound, checkTimestamp_text, valid, judge, faultOf, Violation.misshapen, Draft.stamped,
      Except.mapError, bind, Except.bind, pure, Except.pure]

/-- A build that gives a record was of a draft without violations, from year 1000 on. -/
theorem build_eq_ok_iff {r : FailureRecord} :
    build d now = .ok r ↔ d.validate = .ok [] ∧ 1000 ≤ now.year ∧ r = d.stamped now := by
  cases found : d.validate with
  | error fault => simp [build, found, Except.mapError, bind, Except.bind]
  | ok violations =>
    cases violations with
    | cons first others => simp [build_of_violations found]
    | nil =>
      rw [build_of_sound found]
      by_cases year : 1000 ≤ now.year
      · simp [Timestamp.isValid_format year, year, @eq_comm _ r]
      · have invalid := mt Timestamp.isValid_format_iff.mp year
        simp [invalid, year]

theorem build_eq_ok (sound : d.validate = .ok []) (year : 1000 ≤ now.year) : build d now = .ok (d.stamped now) :=
  build_eq_ok_iff.mpr ⟨sound, year, rfl⟩

theorem eq_stamped_of_build {r : FailureRecord} (h : build d now = .ok r) : r = d.stamped now :=
  (build_eq_ok_iff.mp h).2.2

end Build

end FailureRecord

end RecordPipeline
