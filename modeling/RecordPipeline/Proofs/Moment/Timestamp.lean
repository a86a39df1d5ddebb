import RecordPipeline.Proofs.Moment.Parts
set_option autoImplicit false

namespace RecordPipeline

namespace Timestamp

open Numeral (digits padded value)

def Parts.ofMoment (m : Moment) : Parts :=
  { year := padded 4 m.year
    month := padded 2 m.month
    day := padded 2 m.day
    hour := padded 2 m.hour
    minute := padded 2 m.minute
    second := padded 2 m.second
    millisecond := padded 3 (m.microsecond / 1000) }

theorem isRunOf_padded {width n : Nat} (positive : 0 < width) (fits : n < 10 ^ width) :
    IsRunOf width (padded width n) :=
  ⟨Numeral.length_padded positive fits, fun _ => Numeral.isDigit_of_mem_padded⟩

section Writer

variable {m : Moment}

theorem Parts.areRuns_ofMoment (m : Moment) : (ofMoment m).AreRuns := by
  obtain ⟨⟨-, y⟩, ⟨-, mo⟩, ⟨-, d⟩, h, mi, s, us⟩ := m.isReal
  have days := Calendar.daysInMonth_le m.year m.month
  exact {
    year := isRunOf_padded (by omega) (by omega)
    month := isRunOf_padded (by omega) (by omega)
    day := isRunOf_padded (by omega) (by omega)
    hour := isRunOf_padded (by omega) (by omega)
    minute := isRunOf_padded (by omega) (by omega)
    second := isRunOf_padded (by omega) (by omega)
    millisecond := isRunOf_padded (by omega) (by omega) }

theorem Parts.areReal_ofMoment (m : Moment) : (ofMoment m).AreReal := by
  have within : m.microsecond ≤ 999999 := m.isReal.2.2.2.2.2.2
  rw [← isReal_iff (areRuns_ofMoment m) within]
  simpa [ofMoment] using m.isReal

theorem formatChars_eq (year : 1000 ≤ m.year) : formatChars m = (Parts.ofMoment m).written := by
  have full : padded 4 m.year = digits m.year := Numeral.padded_eq_digits year
  simp [formatChars, Parts.written_eq, Parts.ofMoment, full]

theorem length_formatChars (m : Moment) : (formatChars m).length = (digits m.year).length + 20 := by
  have are := Parts.areRuns_ofMoment m
  have widths := And.intro are.month.length <| And.intro are.day.length <| And.intro are.hour.length <|
    And.intro are.minute.length <| And.intro are.second.length are.millisecond.length
  simp only [Parts.ofMoment] at widths
  simp [formatChars, widths]

/-- The timestamp of a moment is valid exactly from year 1000 on. -/
theorem isValid_format_iff : isValid (format m) = true ↔ 1000 ≤ m.year := by
  rw [isValid_iff, format, String.toList_ofList]
  constructor
  · rintro ⟨p, are, -, written⟩
    have length := length_formatChars m
    rw [written, Parts.length_written are] at length
    by_contra early
    have short := (Numeral.length_digits_le_iff (n := m.year) (k := 3) (by decide)).mpr (by omega)
    omega
  · intro year
    exact ⟨_, Parts.areRuns_ofMoment m, Parts.areReal_ofMoment m, formatChars_eq year⟩

theorem isValid_format (year : 1000 ≤ m.year) : isValid (format m) = true := isValid_format_iff.mpr year

end Writer

end Timestamp

end RecordPipeline
