import RecordPipeline.Journal.Report
import RecordPipeline.Proofs.Json.Plain
set_option autoImplicit false

namespace RecordPipeline.Journal

open Json (IsLine Native)

namespace Line

variable {l : Line} {s : String}

/-- What stands under each key. -/
def fields (l : Line) : List (String × Value) :=
  [("timestamp", .text l.timestamp), ("logger", .text l.logger), ("level", .text (levelName l.level)),
    ("function", l.function.elim .null .text), ("line", .int l.line), ("message", .text l.message)] ++
    l.fault.elim [] fun f => [("exception", .text f)]

theorem map_fst_fields (l : Line) :
    l.fields.map Prod.fst =
      ["timestamp", "logger", "level", "function", "line", "message"] ++
        l.fault.elim [] fun _ => ["exception"] := by
  unfold fields
  cases l.fault <;> rfl

theorem toValue_eq (l : Line) : l.toValue = Value.ofFields l.fields := by
  obtain ⟨_, _, _, function, _, _, fault⟩ := l
  cases function <;> cases fault <;> rfl

theorem native_toValue (room : Nat) (short : Numeral.tooLong l.line = false) : Native (room + 1) l.toValue := by
  have function : Native room (l.function.elim .null .text) := by
    cases l.function with
    | none => exact .null
    | some name => exact .text name
  have fault : ∀ f ∈ l.fault.elim [] fun f => [("exception", Value.text f)], Native room f.2 := by
    cases l.fault with
    | none => simp
    | some f => exact List.forall_mem_singleton.mpr (.text f)
  rw [toValue_eq]
  refine .ofFields ?_ (List.forall_mem_append.mpr ⟨?_, fault⟩)
  · rw [map_fst_fields]
    cases l.fault <;> simp
  · simp only [List.forall_mem_cons]
    exact ⟨.text _, .text _, .text _, function, .int short, .text _, by simp⟩

theorem exists_text_iff : (∃ s, l.text = .ok s) ↔ Numeral.tooLong l.line = false := by
  constructor
  · rintro ⟨s, written⟩
    rw [text, toValue_eq, Value.ofFields] at written
    obtain ⟨-, cs, record, -⟩ := Json.encode_eq_ok_iff.mp written
    rw [Json.encodeChars] at record
    obtain ⟨parts, members, -⟩ := exists_of_bind_eq_ok record
    obtain ⟨cs, number⟩ := Json.exists_encodeChars_of_mem members (.text "line", .int l.line) (by simp [fields])
    exact (Json.encodeChars_int_eq_ok_iff.mp number).1
  · intro short
    obtain ⟨s, written, -⟩ := Json.exists_encode_of_native (native_toValue _ short)
    exact ⟨s, written⟩

theorem text_sound (written : l.text = .ok s) :
    IsLine s.toList ∧ Json.decode s = .ok (Value.ofFields l.fields) := by
  obtain ⟨s', written', read⟩ := Json.exists_encode_of_native (native_toValue _ (exists_text_iff.mp ⟨s, written⟩))
  obtain rfl : s = s' := Except.ok.inj (written.symm.trans written')
  exact ⟨Json.isLine_encode written, toValue_eq l ▸ read⟩

end Line

namespace Report

variable {pattern : Option String} {r : Report} {s : String}

def written (timestamp message : String) (r : Report) : Line :=
  { timestamp, logger := r.logger, level := r.level, function := r.function, line := r.line,
    message, fault := r.fault }

theorem text_eq_ok_iff :
    r.text pattern = .ok s ↔
      ∃ timestamp message, r.stamp.text pattern = .ok timestamp ∧
        Template.fill r.template r.arguments = .ok message ∧ (r.written timestamp message).text = .ok s := by
  constructor
  · intro h
    obtain ⟨line, told, h⟩ := exists_of_bind_eq_ok h
    obtain ⟨timestamp, time, told⟩ := exists_of_bind_eq_ok told
    obtain ⟨message, filled, told⟩ := exists_of_bind_eq_ok told
    cases told
    exact ⟨timestamp, message, eq_ok_of_mapError_eq_ok time, eq_ok_of_mapError_eq_ok filled,
      eq_ok_of_mapError_eq_ok h⟩
  · rintro ⟨timestamp, message, time, filled, h⟩
    rw [text, toLine, time, filled]
    change (r.written timestamp message).text.mapError ReportFault.value = .ok s
    rw [h]
    rfl

/-- A report has a line if all of it can be written. The line is printable ASCII, and read as a
document it is a record of the particulars alone, each as it was reported. -/
theorem text_faithful (pattern : Option String) (r : Report) :
    ((∃ s, r.text pattern = .ok s) ↔
      (∃ timestamp, r.stamp.text pattern = .ok timestamp) ∧
        (∃ message, Template.fill r.template r.arguments = .ok message) ∧ Numeral.tooLong r.line = false) ∧
    ∀ s, r.text pattern = .ok s →
      (∀ c ∈ s.toList, 0x20 ≤ c.toNat ∧ c.toNat < 0x7f) ∧
      ∃ timestamp message, r.stamp.text pattern = .ok timestamp ∧
        Template.fill r.template r.arguments = .ok message ∧
        Json.decode s = .ok (Value.ofFields (
          [("timestamp", .text timestamp), ("logger", .text r.logger), ("level", .text (levelName r.level)),
            ("function", r.function.elim .null .text), ("line", .int r.line), ("message", .text message)] ++
            r.fault.elim [] fun f => [("exception", .text f)])) := by
  refine ⟨?_, ?_⟩
  · constructor
    · rintro ⟨s, h⟩
      obtain ⟨timestamp, message, time, filled, h⟩ := text_eq_ok_iff.mp h
      exact ⟨⟨timestamp, time⟩, ⟨message, filled⟩, Line.exists_text_iff.mp ⟨s, h⟩⟩
    · rintro ⟨⟨timestamp, time⟩, ⟨message, filled⟩, short⟩
      obtain ⟨s, h⟩ := (@Line.exists_text_iff (r.written timestamp message)).mpr short
      exact ⟨s, text_eq_ok_iff.mpr ⟨timestamp, message, time, filled, h⟩⟩
  · intro s h
    obtain ⟨timestamp, message, time, filled, h⟩ := text_eq_ok_iff.mp h
    obtain ⟨line, read⟩ := Line.text_sound h
    exact ⟨line, timestamp, message, time, filled, read⟩

theorem text_faithful_quotes :
    let r : Report :=
      { logger := "dead_letter", level := 30, function := some "call_𝄞", line := 7
        template := "\", \"level\": \"%s\"\n\\", arguments := [.text "é"]
        stamp := ⟨.zero false, 5⟩, fault := some "ValueError: \x00" }
    ∃ s, r.text none = .ok s ∧ (∀ c ∈ s.toList, 0x20 ≤ c.toNat ∧ c.toNat < 0x7f) ∧
      Json.decode s = .ok (Value.ofFields
        [("timestamp", .text "1970-01-01 00:00:00,005"), ("logger", .text "dead_letter"),
          ("level", .text "WARNING"), ("function", .text "call_𝄞"), ("line", .int 7),
          ("message", .text "\", \"level\": \"é\"\n\\"), ("exception", .text "ValueError: \x00")]) := by
  intro r
  have stamped : r.stamp.text none = .ok "1970-01-01 00:00:00,005" := by decide +kernel
  have composed : Template.fill r.template r.arguments = .ok "\", \"level\": \"é\"\n\\" := by decide +kernel
  have short : Numeral.tooLong r.line = false := by decide
  obtain ⟨s, h⟩ := (text_faithful none r).1.mpr ⟨⟨_, stamped⟩, ⟨_, composed⟩, short⟩
  obtain ⟨line, timestamp, message, time, filled, read⟩ := (text_faithful none r).2 s h
  obtain rfl := Except.ok.inj (stamped.symm.trans time)
  obtain rfl := Except.ok.inj (composed.symm.trans filled)
  exact ⟨s, h, line, read⟩

end Report

end RecordPipeline.Journal
