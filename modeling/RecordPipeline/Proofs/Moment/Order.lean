import RecordPipeline.Proofs.Moment.Spelling
import RecordPipeline.Proofs.Moment.Timestamp
set_option autoImplicit false

/-!
The order of moments and that of their timestamps. Later moments are the ones with the greater year,
or the greater month of the same year, and so on down to the microsecond; timestamps show these
numbers in this order and in fixed widths, so that texts compare as the moments do that they name.
-/

namespace RecordPipeline

namespace Calendar

structure IsDate (year month day : Nat) : Prop where
  era : 1 ≤ year
  inYear : 1 ≤ month ∧ month ≤ 12
  inMonth : 1 ≤ day ∧ day ≤ daysInMonth year month

theorem daysBeforeMonth_succ (year : Nat) {month : Nat} (first : 1 ≤ month) :
    daysBeforeMonth year (month + 1) = daysBeforeMonth year month + daysInMonth year month := by
  obtain ⟨k, rfl⟩ := Nat.exists_eq_add_of_le' first
  simp [daysBeforeMonth, List.range_succ]

theorem daysBeforeYear_succ {year : Nat} (first : 1 ≤ year) :
    daysBeforeYear (year + 1) = daysBeforeYear year + daysBeforeMonth year 13 := by
  have months : daysBeforeMonth year 13 = if isLeap year then 366 else 365 := by
    have all : List.range 12 = [0, 1, 2, 3, 4, 5, 6, 7, 8, 9, 10, 11] := by decide
    cases leap : isLeap year <;> simp [daysBeforeMonth, daysInMonth, leap, all]
  obtain ⟨y, rfl⟩ := Nat.exists_eq_add_of_le' first
  simp only [months, daysBeforeYear, Nat.add_sub_cancel, Nat.succ_div, isLeap_iff]
  split_ifs <;> omega

/-- What is counted up by parts is greater by the whole part once a part is over. -/
theorem add_le_of_succ {f part : Nat → Nat} (step : ∀ k, 1 ≤ k → f (k + 1) = f k + part k)
    {a b : Nat} (first : 1 ≤ a)
    (less : a < b) : f a + part a ≤ f b := by
  induction less with
  | refl => exact Nat.le_of_eq (step a first).symm
  | @step k later ih =>
    rw [Nat.succ_eq_add_one, step k (Nat.le_trans first (Nat.le_of_lt later))]
    exact Nat.le_add_right_of_le ih

section Days

variable {year year' month month' day day' : Nat}

theorem dayNumber_lt (date : IsDate year month day) (date' : IsDate year' month' day')
    (less : year < year' ∨ (year = year' ∧ (month < month' ∨ (month = month' ∧ day < day')))) :
    dayNumber year month day < dayNumber year' month' day' := by
  have positive := date'.inMonth.1
  have within := date.inMonth.2
  unfold dayNumber
  rcases less with less | ⟨rfl, less | ⟨rfl, less⟩⟩
  · have years := add_le_of_succ (fun _ => daysBeforeYear_succ) date.era less
    have last : month < 13 := Nat.lt_succ_of_le date.inYear.2
    have months := add_le_of_succ (fun _ => daysBeforeMonth_succ year) date.inYear.1 last
    omega
  · have months := add_le_of_succ (fun _ => daysBeforeMonth_succ year) date.inYear.1 less
    omega
  · omega

end Days

end Calendar

namespace Moment

/-- The numbers of a moment, the greater units first. -/
def numbers (m : Moment) : List Nat := [m.year, m.month, m.day, m.hour, m.minute, m.second, m.microsecond]

variable {m n : Moment}

theorem isDate (m : Moment) : Calendar.IsDate m.year m.month m.day :=
  ⟨m.isReal.1.1, m.isReal.2.1, m.isReal.2.2.1⟩

theorem numbers_inj : m.numbers = n.numbers ↔ m = n := by
  obtain ⟨_, _, _, _, _, _, _, _⟩ := m
  obtain ⟨_, _, _, _, _, _, _, _⟩ := n
  simp [numbers]

theorem microseconds_lt (less : m.numbers < n.numbers) : m.microseconds < n.microseconds := by
  obtain ⟨-, -, -, hour, minute, second, microsecond⟩ := m.isReal
  have day := Calendar.dayNumber_lt m.isDate n.isDate
  unfold microseconds
  simp only [numbers, List.cons_lt_cons_iff, List.lt_irrefl, and_false, or_false] at less
  -- the days differ if the dates do; otherwise the time of the day decides
  rcases less with year | ⟨year, month | ⟨month, later | ⟨same, time⟩⟩⟩
  · have := day (.inl year)
    omega
  · have := day (.inr ⟨year, .inl month⟩)
    omega
  · have := day (.inr ⟨year, .inr ⟨month, later⟩⟩)
    omega
  · rw [year, month, same]
    omega

theorem microseconds_lt_iff : m.microseconds < n.microseconds ↔ m.numbers < n.numbers := by
  refine ⟨fun less => ?_, microseconds_lt⟩
  by_contra other
  have greater := mt microseconds_lt (Nat.lt_asymm less)
  obtain rfl := numbers_inj.mp (Numeral.eq_iff_not_lt.mpr ⟨other, greater⟩)
  exact Nat.lt_irrefl _ less

/-- A moment without the part of its last millisecond that is over. -/
def cut (m : Moment) : Moment :=
  { m with
    microsecond := m.microsecond / 1000 * 1000
    isReal := by
      obtain ⟨year, month, day, hour, minute, second, within⟩ := m.isReal
      exact ⟨year, month, day, hour, minute, second, by omega⟩ }

def shown (m : Moment) : List Nat := [m.year, m.month, m.day, m.hour, m.minute, m.second, m.microsecond / 1000]

theorem cut_eq_iff : m.cut = n.cut ↔ m.shown = n.shown := by
  have milliseconds : m.microsecond / 1000 * 1000 = n.microsecond / 1000 * 1000 ↔
      m.microsecond / 1000 = n.microsecond / 1000 := by omega
  rw [← numbers_inj]
  simp [numbers, shown, cut, milliseconds]

theorem cut_microseconds_lt_iff : m.cut.microseconds < n.cut.microseconds ↔ m.shown < n.shown := by
  rw [microseconds_lt_iff]
  have milliseconds : m.microsecond / 1000 * 1000 < n.microsecond / 1000 * 1000 ↔
      m.microsecond / 1000 < n.microsecond / 1000 := by omega
  simp only [numbers, shown, cut, List.cons_lt_cons_iff, milliseconds, Nat.mul_left_inj (by decide : 1000 ≠ 0)]

end Moment

namespace Timestamp

open Numeral (padded value)

section Texts

variable {p q : Parts} {m n : Moment}

def Parts.numbers (p : Parts) : List Nat :=
  [value p.year, value p.month, value p.day, value p.hour, value p.minute, value p.second, value p.millisecond]

theorem Parts.numbers_ofMoment (m : Moment) : (ofMoment m).numbers = m.shown := by
  simp [numbers, ofMoment, Moment.shown]

theorem IsRunOf.eq_iff {width : Nat} {ds es : List Char} (run : IsRunOf width ds) (run' : IsRunOf width es) :
    ds = es ↔ value ds = value es :=
  ⟨congrArg value, Numeral.eq_of_value_eq run.digits run'.digits (run.length.trans run'.length.symm)⟩

theorem IsRunOf.append_lt_iff {width : Nat} {ds es xs ys : List Char} (run : IsRunOf width ds)
    (run' : IsRunOf width es) : ds ++ xs < es ++ ys ↔ value ds < value es ∨ (value ds = value es ∧ xs < ys) := by
  rw [← run.eq_iff run']
  exact Numeral.append_lt_append_iff run.digits run'.digits (run.length.trans run'.length.symm)

theorem Parts.written_lt_iff (are : p.AreRuns) (are' : q.AreRuns) :
    p.written < q.written ↔ p.numbers < q.numbers := by
  simp only [written_eq, are.year.append_lt_iff are'.year, are.month.append_lt_iff are'.month,
    are.day.append_lt_iff are'.day, are.hour.append_lt_iff are'.hour, are.minute.append_lt_iff are'.minute,
    are.second.append_lt_iff are'.second, are.millisecond.append_lt_iff are'.millisecond, numbers,
    List.cons_lt_cons_iff, List.lt_irrefl, Char.lt_irrefl, false_or, true_and, and_false, or_false]

theorem Parts.written_inj (are : p.AreRuns) (are' : q.AreRuns) : p.written = q.written ↔ p.numbers = q.numbers := by
  rw [Numeral.eq_iff_not_lt, Numeral.eq_iff_not_lt, written_lt_iff are are', written_lt_iff are' are]

/-- From year 1000 on timestamps are ordered as moments cut to the millisecond. -/
theorem format_lt_iff (late : 1000 ≤ m.year) (late' : 1000 ≤ n.year) :
    format m < format n ↔ m.cut.microseconds < n.cut.microseconds := by
  rw [String.lt_iff, format, format, String.toList_ofList, String.toList_ofList, formatChars_eq late,
    formatChars_eq late', Parts.written_lt_iff (Parts.areRuns_ofMoment m) (Parts.areRuns_ofMoment n),
    Parts.numbers_ofMoment, Parts.numbers_ofMoment, Moment.cut_microseconds_lt_iff]

theorem format_eq_iff (late : 1000 ≤ m.year) (late' : 1000 ≤ n.year) : format m = format n ↔ m.cut = n.cut := by
  rw [← String.toList_inj, format, format, String.toList_ofList, String.toList_ofList, formatChars_eq late,
    formatChars_eq late', Parts.written_inj (Parts.areRuns_ofMoment m) (Parts.areRuns_ofMoment n),
    Parts.numbers_ofMoment, Parts.numbers_ofMoment, Moment.cut_eq_iff]

theorem IsRunOf.padded_value {width : Nat} {ds : List Char} (run : IsRunOf width ds) (positive : 0 < width) :
    padded width (value ds) = ds :=
  ((isRunOf_padded positive run.value_lt).eq_iff run).mpr (Numeral.value_padded width (value ds))

theorem exists_ofMoment_eq (are : p.AreRuns) (real : p.AreReal) :
    ∃ m : Moment, m.year = value p.year ∧ Parts.ofMoment m = p := by
  have within : value p.millisecond * 1000 ≤ 999999 := by
    have := are.millisecond.value_lt
    omega
  refine ⟨⟨_, _, _, _, _, _, _, (isReal_iff are within).mpr real⟩, rfl, ?_⟩
  simp only [Parts.ofMoment, Nat.mul_div_cancel _ (by decide : 0 < 1000), are.year.padded_value (by decide),
    are.month.padded_value (by decide), are.day.padded_value (by decide), are.hour.padded_value (by decide),
    are.minute.padded_value (by decide), are.second.padded_value (by decide),
    are.millisecond.padded_value (by decide)]

theorem exists_format_eq {s : String} (valid : accepts (.text s) = true) (late : 1000 ≤ value (s.toList.take 4)) :
    ∃ m, format m = s := by
  obtain ⟨p, are, real, written⟩ := accepts_text_iff.mp valid
  obtain ⟨m, year, same⟩ := exists_ofMoment_eq are real
  have front : s.toList.take 4 = p.year := by
    rw [written, Parts.written_eq]
    exact List.take_left' are.year.length
  rw [front, ← year] at late
  refine ⟨m, ?_⟩
  rw [format, formatChars_eq late, same, ← written, String.ofList_toList]

end Texts

end Timestamp

end RecordPipeline
