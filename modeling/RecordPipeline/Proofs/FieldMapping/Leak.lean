import RecordPipeline.Proofs.FieldMapping.Partition
set_option autoImplicit false

/-!
When a batch is worked off to its end. A conversion may fail below itself, on a numeral that is too
long to be written and on a signaling NaN, and such a fault is no refusal: it ends the whole batch.
-/

namespace RecordPipeline

namespace FieldMapping

open Value (IsDict atKey?)

/-- The first declared field of a record that is not converted holds a value on which the conversion
fails below itself. -/
def EndsIn (ts : Targets) (fs : Fields) : Prop :=
  ∃ earlier f t later v, ts = earlier ++ (f, t) :: later ∧ converts earlier fs = true ∧
    atKey? f fs = some v ∧ Converter.Leaks t v

theorem fieldFault?_eq_some_iff {fs : Fields} {f : Value} {t : TargetType} {fault : ConversionFault} :
    fieldFault? fs (f, t) = some fault ↔
      ∃ v, atKey? f fs = some v ∧ Converter.convert t v = .error fault := by
  cases found : atKey? f fs with
  | none => simp [fieldFault?, found]
  | some v => cases converted : Converter.convert t v <;> simp [fieldFault?, found, converted]

theorem exists_convertRecord_eq_value_iff {ts : Targets} {fs : Fields} (hts : IsDict ts)
    (hfs : IsDict fs) :
    (∃ fault, convertRecord ts fs = .error (.value fault)) ↔ EndsIn ts fs := by
  constructor
  · rintro ⟨fault, h⟩
    obtain ⟨earlier, ⟨f, t⟩, later, rfl, here, before⟩ :=
      List.findSome?_eq_some_iff.mp ((convertRecord_eq_error_iff hts hfs).mp h)
    obtain ⟨v, found, refused⟩ := fieldFault?_eq_some_iff.mp here
    have leaks := (Converter.exists_convert_eq_value_iff t v).mp ⟨fault, refused⟩
    exact ⟨earlier, f, t, later, v, rfl, by simpa [converts] using before, found, leaks⟩
  · rintro ⟨earlier, f, t, later, v, rfl, before, found, leaks⟩
    obtain ⟨fault, refused⟩ := (Converter.exists_convert_eq_value_iff t v).mpr leaks
    have here := fieldFault?_eq_some_iff.mpr ⟨v, found, refused⟩
    refine ⟨fault, (convertRecord_eq_error_iff hts hfs).mpr ?_⟩
    exact List.findSome?_eq_some_iff.mpr
      ⟨earlier, (f, t), later, rfl, here, by simpa [converts] using before⟩

/-- Without a sink, a call returns and hands every record over that is not converted, unless a
record ends it below the conversion of one of its fields. -/
theorem process_hands_over_iff {ts : Targets} {pluginId version : Value} {tally : Tally} {a : Ambient}
    {records : List Fields} {s : Scene} (declared : IsDict ts) (dicts : ∀ fs ∈ records, IsDict fs)
    (plugin : Failure.IsName (identity pluginId version).pluginId)
    (pipeline : Failure.IsName s.context.pipelineName) (unheard : s.context.sink = none)
    (year : 1000 ≤ a.now.year) :
    (∃ out p' s', { processor (identity pluginId version) ts with tally }.process a
          (.list (records.map .record)) s = (.ok out, p', s') ∧
        s'.ledger a = (s.ledger a).hand ((records.filter fun fs => !converts ts fs).map fun fs =>
          (identity pluginId version).letter s.context.pipelineName a.now (.record fs))) ↔
      ∀ fs ∈ records, ¬ EndsIn ts fs := by
  have mapper := isMapper_processor (identity pluginId version) ts tally
  have batch : IsBatch (.list (records.map .record)) records := .list dicts
  have full : Text.isBlankText processorName = false := by decide
  have name : Failure.IsName (.text (identity pluginId version).name) := Failure.isName_text full
  have ends : (∃ kept, (settle (identity pluginId version) a ts s.context.pipelineName (s.route a)
      records).1 = .ok kept) ↔ ∀ fs ∈ records, ¬ EndsIn ts fs := by
    rw [exists_settle_eq_ok_iff plugin name pipeline year unheard]
    refine forall₂_congr fun fs hfs => ?_
    rw [← exists_convertRecord_eq_value_iff declared (dicts fs hfs), not_exists]
  rw [← ends]
  rcases settled : settle (identity pluginId version) a ts s.context.pipelineName (s.route a) records
    with ⟨fault | kept, handed⟩
  · obtain ⟨mid, call, -⟩ := process_of_unsettled mapper batch s settled
    simp [call]
  · obtain ⟨s', call, seen⟩ := process_of_settled mapper declared batch s settled
    obtain ⟨-, rfl⟩ := eq_of_settle_eq_ok settled
    rw [refused_eq_filter declared dicts] at seen
    simp only [Except.ok.injEq, exists_eq', iff_true]
    exact ⟨_, _, s', call, congrArg Shown.ledger seen⟩

theorem process_hands_over_word :
    let i := identity (.text "mapper") .null
    let a : Ambient := { now := .epoch, settings := .unset }
    let s : Scene := { context := { pipelineName := .text "telemetry" } }
    ∃ out p' s', (processor i [(.text "n", .integer)]).process a
        (.list [.record [(.text "n", .text "x")]]) s = (.ok out, p', s') ∧
      s'.ledger a = (s.ledger a).hand
        [i.letter (.text "telemetry") .epoch (.record [(.text "n", .text "x")])] := by
  intro i a s
  have declared : IsDict [(Value.text "n", TargetType.integer)] := ⟨by decide, by decide⟩
  have dict : IsDict [(Value.text "n", Value.text "x")] := ⟨by decide, by decide⟩
  have dicts : ∀ fs ∈ ([[(.text "n", .text "x")]] : List Fields), IsDict fs := by simpa using dict
  have full : Text.isBlankText "mapper" = false := by decide
  have full' : Text.isBlankText "telemetry" = false := by decide
  have iff := @process_hands_over_iff _ (.text "mapper") .null {} a _ s declared dicts
    (Failure.isName_text full) (Failure.isName_text full') rfl (by decide)
  refine iff.mpr fun fs hfs ends => ?_
  obtain rfl := List.mem_singleton.mp hfs
  obtain ⟨fault, h⟩ := (exists_convertRecord_eq_value_iff declared dict).mpr ends
  cases h

/-- A signaling NaN under a boolean field ends the call, and nothing is handed over. -/
theorem process_fails_on_signaling_flag :
    let left := (processor (identity (.text "mapper") .null) [(.text "flag", .boolean)]).process
      { now := .epoch, settings := .unset }
      (.list [.record [(.text "flag", .decimal (.nan false true 0))]])
      { context := { pipelineName := .text "telemetry" } }
    (∃ fault, left.1 = .error fault) ∧ left.2.2.context.failureRecords = [] := ⟨⟨_, rfl⟩, rfl⟩

end FieldMapping

end RecordPipeline
