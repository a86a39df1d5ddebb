import RecordPipeline.Moment.Shape
import RecordPipeline.Moment.Timestamp
import RecordPipeline.Proofs.Text.Numeral
set_option autoImplicit false

/-!
What timestamps are, apart from how they are read: runs of digits of fixed widths with marks behind
them, whose numbers name a day of the Gregorian calendar and a time of that day. Both the shape and
the reader come to these runs.
-/

namespace RecordPipeline

namespace Calendar

/-- The lengths of the months of a year. Leap years are those that four divides, save the centuries
that four hundred does not divide. -/
def monthLengths (year : Nat) : List Nat :=
  [31, if 4 ∣ year ∧ (100 ∣ year → 400 ∣ year) then 29 else 28, 31, 30, 31, 30, 31, 31, 30, 31, 30, 31]

theorem isLeap_iff (year : Nat) : isLeap year = true ↔ 4 ∣ year ∧ (100 ∣ year → 400 ∣ year) := by
  simp only [isLeap, Bool.and_eq_true, Bool.or_eq_true, decide_eq_true_eq]
  omega

theorem monthLengths_getElem? {year month : Nat} (first : 1 ≤ month) (last : month ≤ 12) :
    (monthLengths year)[month - 1]? = some (daysInMonth year month) := by
  have february : (if 4 ∣ year ∧ (100 ∣ year → 400 ∣ year) then 29 else 28) =
      if isLeap year = true then 29 else 28 := by simp only [isLeap_iff]
  have each : ∀ m ∈ [1, 2, 3, 4, 5, 6, 7, 8, 9, 10, 11, 12],
      (monthLengths year)[m - 1]? = some (daysInMonth year m) := by
    simp [monthLengths, daysInMonth, february]
  exact each month (by simp only [List.mem_cons]; omega)

theorem daysInMonth_le (year month : Nat) : daysInMonth year month ≤ 31 := by
  unfold daysInMonth
  split
  · split <;> omega
  all_goals omega

end Calendar

namespace Timestamp

open Numeral (value)

structure IsRunOf (width : Nat) (ds : List Char) : Prop where
  length : ds.length = width
  digits : ∀ c ∈ ds, c.isDigit = true

structure Parts where
  year : List Char
  month : List Char
  day : List Char
  hour : List Char
  minute : List Char
  second : List Char
  millisecond : List Char

namespace Parts

def clock (p : Parts) : List Char :=
  p.year ++ '-' :: (p.month ++ '-' :: (p.day ++ 'T' :: (p.hour ++ ':' :: (p.minute ++ ':' :: p.second))))

def written (p : Parts) : List Char := p.clock ++ '.' :: (p.millisecond ++ ['Z'])

theorem written_eq (p : Parts) : p.written = p.year ++ '-' :: (p.month ++ '-' :: (p.day ++ 'T' :: (p.hour ++ ':' ::
    (p.minute ++ ':' :: (p.second ++ '.' :: (p.millisecond ++ ['Z'])))))) := by
  simp [written, clock]

structure AreRuns (p : Parts) : Prop where
  year : IsRunOf 4 p.year
  month : IsRunOf 2 p.month
  day : IsRunOf 2 p.day
  hour : IsRunOf 2 p.hour
  minute : IsRunOf 2 p.minute
  second : IsRunOf 2 p.second
  millisecond : IsRunOf 3 p.millisecond

/-- The numbers of the parts name a day that there is and a time of it. -/
structure AreReal (p : Parts) : Prop where
  year : 1 ≤ value p.year
  month : 1 ≤ value p.month ∧ value p.month ≤ 12
  day : 1 ≤ value p.day ∧
    ∃ length, (Calendar.monthLengths (value p.year))[value p.month - 1]? = some length ∧ value p.day ≤ length
  hour : value p.hour ≤ 23
  minute : value p.minute ≤ 59
  second : value p.second ≤ 59

theorem length_clock {p : Parts} (are : p.AreRuns) : p.clock.length = patternLength := by
  simp [clock, patternLength, are.year.length, are.month.length, are.day.length, are.hour.length, are.minute.length,
    are.second.length]

theorem length_written {p : Parts} (are : p.AreRuns) : p.written.length = 24 := by
  simp [written, length_clock are, patternLength, are.millisecond.length]

theorem take_written {p : Parts} (are : p.AreRuns) : p.written.take patternLength = p.clock :=
  List.take_left' (length_clock are)

end Parts

/-- A text of the form `dddd-dd-ddTdd:dd:dd.dddZ` that names a moment. -/
def NamesMoment (cs : List Char) : Prop := ∃ p : Parts, p.AreRuns ∧ p.AreReal ∧ cs = p.written

section Runs

variable {width : Nat} {ds : List Char}

theorem IsRunOf.value_lt (run : IsRunOf width ds) : value ds < 10 ^ width := by
  rw [← run.length]
  exact Numeral.value_lt run.digits

theorem readNumber_run (run : IsRunOf width ds) (rest : List Char) :
    readNumber width (ds ++ rest) = some (value ds, rest) := by
  have own : (ds ++ rest).take width = ds := List.take_left' run.length
  have others : (ds ++ rest).drop width = rest := List.drop_left' run.length
  have all : ds.all Char.isDigit = true := List.all_eq_true.mpr run.digits
  simp [readNumber, own, others, run.length, all]

theorem readNumber_bind_eq_some_iff {α : Type} {cs : List Char} {k : Nat × List Char → Option α} {x : α} :
    (readNumber width cs >>= k) = some x ↔
      ∃ ds rest, IsRunOf width ds ∧ cs = ds ++ rest ∧ k (value ds, rest) = some x := by
  constructor
  · intro read
    obtain ⟨⟨n, rest⟩, front, later⟩ := Option.bind_eq_some_iff.mp read
    simp only [readNumber] at front
    split at front
    · rename_i run
      simp only [Bool.and_eq_true, decide_eq_true_eq, List.all_eq_true] at run
      cases front
      exact ⟨cs.take width, cs.drop width, ⟨run.1, run.2⟩, (List.take_append_drop width cs).symm, later⟩
    · cases front
  · rintro ⟨ds, rest, run, rfl, read⟩
    exact Option.bind_eq_some_iff.mpr ⟨_, readNumber_run run rest, read⟩

theorem readMark_bind_eq_some_iff {α : Type} {mark : Char} {cs : List Char} {k : List Char → Option α} {x : α} :
    (readMark mark cs >>= k) = some x ↔ ∃ rest, cs = mark :: rest ∧ k rest = some x := by
  constructor
  · intro read
    obtain ⟨rest, front, later⟩ := Option.bind_eq_some_iff.mp read
    cases cs with
    | nil => cases front
    | cons c cs =>
      simp only [readMark] at front
      split at front
      · rename_i same
        cases front
        exact ⟨_, by rw [same], later⟩
      · cases front
  · rintro ⟨rest, rfl, read⟩
    exact Option.bind_eq_some_iff.mpr ⟨rest, by rw [readMark, if_pos rfl], read⟩

end Runs

section Reader

variable {p : Parts} {cs : List Char}

theorem isReal_iff (are : p.AreRuns) {microsecond : Nat} (within : microsecond ≤ 999999) :
    Moment.IsReal (value p.year) (value p.month) (value p.day) (value p.hour) (value p.minute) (value p.second)
      microsecond ↔ p.AreReal := by
  have years := are.year.value_lt
  constructor
  · rintro ⟨⟨year, -⟩, month, day, hour, minute, second, -⟩
    exact ⟨year, month, ⟨day.1, _, Calendar.monthLengths_getElem? month.1 month.2, day.2⟩, hour, minute, second⟩
  · rintro ⟨year, month, ⟨first, length, listed, last⟩, hour, minute, second⟩
    rw [Calendar.monthLengths_getElem? month.1 month.2] at listed
    cases listed
    exact ⟨⟨year, by omega⟩, month, ⟨first, last⟩, hour, minute, second, within⟩

theorem isSome_of?_iff (are : p.AreRuns) {microsecond : Nat} (within : microsecond ≤ 999999) :
    (Moment.of? (value p.year) (value p.month) (value p.day) (value p.hour) (value p.minute) (value p.second)
      microsecond).isSome = true ↔ p.AreReal := by
  rw [← isReal_iff are within, Moment.of?]
  split
  · rename_i real
    exact iff_of_true rfl real
  · rename_i unreal
    exact iff_of_false Bool.false_ne_true unreal

theorem readChars?_eq_some_iff {m : Moment} : readChars? cs = some m ↔
    ∃ p : Parts, p.AreRuns ∧ cs = p.written ∧ Moment.of? (value p.year) (value p.month) (value p.day) (value p.hour)
      (value p.minute) (value p.second) (value p.millisecond * 1000) = some m := by
  constructor
  · intro read
    obtain ⟨year, _, yearRun, rfl, read₁⟩ := readNumber_bind_eq_some_iff.mp read
    obtain ⟨_, rfl, read₂⟩ := readMark_bind_eq_some_iff.mp read₁
    obtain ⟨month, _, monthRun, rfl, read₃⟩ := readNumber_bind_eq_some_iff.mp read₂
    obtain ⟨_, rfl, read₄⟩ := readMark_bind_eq_some_iff.mp read₃
    obtain ⟨day, _, dayRun, rfl, read₅⟩ := readNumber_bind_eq_some_iff.mp read₄
    obtain ⟨_, rfl, read₆⟩ := readMark_bind_eq_some_iff.mp read₅
    obtain ⟨hour, _, hourRun, rfl, read₇⟩ := readNumber_bind_eq_some_iff.mp read₆
    obtain ⟨_, rfl, read₈⟩ := readMark_bind_eq_some_iff.mp read₇
    obtain ⟨minute, _, minuteRun, rfl, read₉⟩ := readNumber_bind_eq_some_iff.mp read₈
    obtain ⟨_, rfl, read₁₀⟩ := readMark_bind_eq_some_iff.mp read₉
    obtain ⟨second, _, secondRun, rfl, read₁₁⟩ := readNumber_bind_eq_some_iff.mp read₁₀
    obtain ⟨_, rfl, read₁₂⟩ := readMark_bind_eq_some_iff.mp read₁₁
    obtain ⟨millisecond, _, millisecondRun, rfl, read₁₃⟩ := readNumber_bind_eq_some_iff.mp read₁₂
    obtain ⟨rest, rfl, read₁₄⟩ := readMark_bind_eq_some_iff.mp read₁₃
    obtain ⟨nothing, real⟩ := Option.ite_none_right_eq_some.mp read₁₄
    rw [List.isEmpty_iff] at nothing
    subst nothing
    exact ⟨⟨year, month, day, hour, minute, second, millisecond⟩, ⟨yearRun, monthRun, dayRun, hourRun, minuteRun,
      secondRun, millisecondRun⟩, by rw [Parts.written_eq], real⟩
  · rintro ⟨p, are, rfl, real⟩
    rw [Parts.written_eq]
    exact readNumber_bind_eq_some_iff.mpr ⟨_, _, are.year, rfl, readMark_bind_eq_some_iff.mpr ⟨_, rfl,
      readNumber_bind_eq_some_iff.mpr ⟨_, _, are.month, rfl, readMark_bind_eq_some_iff.mpr ⟨_, rfl,
      readNumber_bind_eq_some_iff.mpr ⟨_, _, are.day, rfl, readMark_bind_eq_some_iff.mpr ⟨_, rfl,
      readNumber_bind_eq_some_iff.mpr ⟨_, _, are.hour, rfl, readMark_bind_eq_some_iff.mpr ⟨_, rfl,
      readNumber_bind_eq_some_iff.mpr ⟨_, _, are.minute, rfl, readMark_bind_eq_some_iff.mpr ⟨_, rfl,
      readNumber_bind_eq_some_iff.mpr ⟨_, _, are.second, rfl, readMark_bind_eq_some_iff.mpr ⟨_, rfl,
      readNumber_bind_eq_some_iff.mpr ⟨_, _, are.millisecond, rfl, readMark_bind_eq_some_iff.mpr ⟨_, rfl,
      Option.ite_none_right_eq_some.mpr ⟨rfl, real⟩⟩⟩⟩⟩⟩⟩⟩⟩⟩⟩⟩⟩⟩⟩

theorem isValid_iff {s : String} : isValid s = true ↔ NamesMoment s.toList := by
  have within (p : Parts) (are : p.AreRuns) : value p.millisecond * 1000 ≤ 999999 := by
    have := are.millisecond.value_lt
    omega
  rw [isValid, Option.isSome_iff_exists]
  constructor
  · rintro ⟨m, read⟩
    obtain ⟨p, are, written, named⟩ := readChars?_eq_some_iff.mp read
    exact ⟨p, are, (isSome_of?_iff are (within p are)).mp (Option.isSome_of_eq_some named), written⟩
  · rintro ⟨p, are, real, written⟩
    obtain ⟨m, named⟩ := Option.isSome_iff_exists.mp ((isSome_of?_iff are (within p are)).mpr real)
    exact ⟨m, readChars?_eq_some_iff.mpr ⟨p, are, written, named⟩⟩

end Reader

section Shape

theorem hasShape_cons_iff (mark : Char) (literal : mark ≠ 'd') {marks cs : List Char} :
    hasShape (mark :: marks) cs = true ↔ ∃ rest, hasShape marks rest = true ∧ cs = mark :: rest := by
  cases cs with
  | nil => simp [hasShape]
  | cons c cs =>
    simp only [hasShape, fits, literal, if_false, Bool.and_eq_true, decide_eq_true_eq, List.cons.injEq]
    constructor
    · rintro ⟨rfl, rest⟩
      exact ⟨cs, rest, rfl, rfl⟩
    · rintro ⟨rest, shaped, rfl, rfl⟩
      exact ⟨rfl, shaped⟩

theorem hasShape_digits_iff {width : Nat} {marks cs : List Char} :
    hasShape (List.replicate width 'd' ++ marks) cs = true ↔
      ∃ ds rest, IsRunOf width ds ∧ hasShape marks rest = true ∧ cs = ds ++ rest := by
  induction width generalizing cs with
  | zero =>
    constructor
    · intro shaped
      exact ⟨[], cs, ⟨rfl, by simp⟩, shaped, rfl⟩
    · rintro ⟨ds, rest, run, shaped, rfl⟩
      rw [List.length_eq_zero_iff.mp run.length]
      exact shaped
  | succ width ih =>
    cases cs with
    | nil =>
      have short : ¬ ∃ ds rest, IsRunOf (width + 1) ds ∧ hasShape marks rest = true ∧ [] = ds ++ rest := by
        rintro ⟨ds, rest, run, -, none⟩
        have length := run.length
        rw [(List.append_eq_nil_iff.mp none.symm).1] at length
        cases length
      exact iff_of_false (by simp [hasShape, List.replicate_succ]) short
    | cons c cs =>
      have step : hasShape (List.replicate (width + 1) 'd' ++ marks) (c :: cs) = true ↔
          c.isDigit = true ∧ hasShape (List.replicate width 'd' ++ marks) cs = true := by
        simp [hasShape, List.replicate_succ, fits]
      rw [step, ih]
      constructor
      · rintro ⟨digit, ds, rest, run, shaped, rfl⟩
        exact ⟨c :: ds, rest, ⟨by simp [run.length], by simpa using ⟨digit, run.digits⟩⟩, shaped, rfl⟩
      · rintro ⟨ds, rest, run, shaped, split⟩
        cases ds with
        | nil => cases run.length
        | cons d ds =>
          cases split
          obtain ⟨digit, others⟩ := List.forall_mem_cons.mp run.digits
          exact ⟨digit, ds, rest, ⟨by simpa using run.length, others⟩, shaped, rfl⟩

theorem hasShape_iff {cs : List Char} :
    hasShape shape.toList cs = true ↔ ∃ p : Parts, p.AreRuns ∧ cs = p.written := by
  have form : shape.toList = List.replicate 4 'd' ++ '-' :: (List.replicate 2 'd' ++ '-' :: (List.replicate 2 'd' ++
      'T' :: (List.replicate 2 'd' ++ ':' :: (List.replicate 2 'd' ++ ':' :: (List.replicate 2 'd' ++
      '.' :: (List.replicate 3 'd' ++ ['Z'])))))) := by decide
  have done {rest : List Char} : hasShape [] rest = true ↔ rest = [] := by cases rest <;> simp [hasShape]
  simp only [form, hasShape_digits_iff, hasShape_cons_iff '-' (by decide),
    hasShape_cons_iff 'T' (by decide), hasShape_cons_iff ':' (by decide),
    hasShape_cons_iff '.' (by decide), hasShape_cons_iff 'Z' (by decide), done]
  constructor
  · rintro ⟨year, _, yearRun, ⟨_, ⟨month, _, monthRun, ⟨_, ⟨day, _, dayRun, ⟨_, ⟨hour, _, hourRun, ⟨_, ⟨minute, _,
      minuteRun, ⟨_, ⟨second, _, secondRun, ⟨_,
        ⟨millisecond, _, millisecondRun, ⟨_, rfl, rfl⟩, rfl⟩, rfl⟩, rfl⟩, rfl⟩,
      rfl⟩, rfl⟩, rfl⟩, rfl⟩, rfl⟩, rfl⟩, rfl⟩, rfl⟩, rfl⟩
    exact ⟨⟨year, month, day, hour, minute, second, millisecond⟩, ⟨yearRun, monthRun, dayRun, hourRun, minuteRun,
        secondRun, millisecondRun⟩, by rw [Parts.written_eq]⟩
  · rintro ⟨p, are, rfl⟩
    exact ⟨p.year, _, are.year, ⟨_, ⟨p.month, _, are.month, ⟨_, ⟨p.day, _, are.day, ⟨_, ⟨p.hour, _, are.hour, ⟨_,
      ⟨p.minute, _, are.minute, ⟨_, ⟨p.second, _, are.second, ⟨_, ⟨p.millisecond, _, are.millisecond, ⟨_, rfl, rfl⟩,
      rfl⟩, rfl⟩, rfl⟩, rfl⟩, rfl⟩, rfl⟩, rfl⟩, rfl⟩, rfl⟩, rfl⟩, rfl⟩, rfl⟩, p.written_eq⟩

end Shape

end Timestamp

end RecordPipeline
