import RecordPipeline.Proofs.Failure.Violations
import RecordPipeline.Proofs.Moment.Spelling
set_option autoImplicit false

namespace RecordPipeline

namespace Timestamp

theorem isValid_eq_accepts (s : String) : isValid s = accepts (.text s) :=
  Bool.eq_iff_iff.mpr (isValid_iff.trans accepts_text_iff.symm)

theorem exists_text_of_accepts {v : Value} (accepted : accepts v = true) : ∃ s, v = .text s := by
  cases v with
  | text s => exact ⟨s, rfl⟩
  | _ => cases accepted

theorem checkTimestamp_eq_ok_iff {v : Value} {s : String} :
    FailureRecord.checkTimestamp v = .ok (.ok s) ↔ v = .text s ∧ accepts v = true := by
  cases v with
  | text t =>
    rw [FailureRecord.checkTimestamp_text, isValid_eq_accepts]
    cases accepted : accepts (.text t) <;> simp
  | null => simp [FailureRecord.checkTimestamp]
  | _ =>
    simp only [FailureRecord.checkTimestamp, accepts, reduceCtorEq, false_and, iff_false]
    generalize Value.plain _ = written
    cases written <;> simp [bind, Except.bind, pure, Except.pure]

/-- The values that are taken for timestamps are the texts that name a moment, and records take the
same ones. -/
theorem accepts_iff_names_moment :
    (∀ v, accepts v = true ↔ ∃ s, v = .text s ∧ NamesMoment s.toList) ∧
    (∀ s, isValid s = accepts (.text s)) ∧
    ∀ v s, FailureRecord.checkTimestamp v = .ok (.ok s) ↔ v = .text s ∧ accepts v = true := by
  refine ⟨fun v => ⟨fun accepted => ?_, ?_⟩, isValid_eq_accepts, fun _ _ => checkTimestamp_eq_ok_iff⟩
  · obtain ⟨s, rfl⟩ := exists_text_of_accepts accepted
    exact ⟨s, rfl, accepts_text_iff.mp accepted⟩
  · rintro ⟨s, rfl, names⟩
    exact accepts_text_iff.mpr names

end Timestamp

namespace FailureRecord

open Failure (Draft Violation)

section Build

variable {d : Draft}

theorem build_early (sound : d.validate = .ok []) {now : Moment} (early : now.year < 1000) :
    build d now = .error (.invalid [.misshapen (Timestamp.format now)]) := by
  rw [build_of_sound sound, if_neg]
  rw [Timestamp.isValid_format_iff]
  omega

/-- A draft without violations becomes a record, whose timestamp is then accepted, exactly from year
1000 on; before that it is refused for its timestamp, which the writer makes shorter. -/
theorem build_sound_iff (sound : d.validate = .ok []) (now : Moment) :
    ((∃ r, build d now = .ok r) ↔ 1000 ≤ now.year) ∧
    (∀ r, build d now = .ok r → r = d.stamped now ∧ Timestamp.accepts (.text r.timestamp) = true) ∧
    (now.year < 1000 → build d now = .error (.invalid [.misshapen (Timestamp.format now)])) := by
  have late {r : FailureRecord} (built : build d now = .ok r) : 1000 ≤ now.year := by
    by_contra early
    rw [build_early sound (Nat.not_le.mp early)] at built
    cases built
  refine ⟨⟨fun ⟨_, built⟩ => late built, fun year => ⟨_, build_eq_ok sound year⟩⟩, fun r built => ?_,
    build_early sound⟩
  obtain rfl := eq_stamped_of_build built
  exact ⟨rfl, (Timestamp.isValid_eq_accepts _).symm.trans (Timestamp.isValid_format (late built))⟩

def mapperDraft : Draft :=
  { pluginId := .text "mapper-1"
    pluginName := .text "field_mapping"
    pipelineName := .text "telemetry"
    failedData := .record [(.text "speed", .text "fast")] }

theorem validate_mapperDraft : mapperDraft.validate = .ok [] := by decide

theorem build_sound_iff_epoch : mapperDraft.validate = .ok [] ∧ ∃ r, build mapperDraft .epoch = .ok r :=
  ⟨validate_mapperDraft, (build_sound_iff validate_mapperDraft .epoch).1.mpr (by decide)⟩

def endOf999 : Moment := ⟨999, 12, 31, 23, 59, 59, 999999, by decide⟩

theorem build_fails_in_999 : ¬ ∀ (d : Draft) (now : Moment), d.validate = .ok [] →
    ∃ r, build d now = .ok r ∧ Timestamp.accepts (.text r.timestamp) = true := by
  intro always
  obtain ⟨r, built, -⟩ := always mapperDraft endOf999 validate_mapperDraft
  rw [build_early validate_mapperDraft (by decide)] at built
  cases built

end Build

end FailureRecord

end RecordPipeline
