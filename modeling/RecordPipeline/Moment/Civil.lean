import RecordPipeline.Moment.Basic
set_option autoImplicit false

namespace RecordPipeline

namespace Calendar

def daysOfCycle : Nat := 146097

/-- The year of a day and the days of it that are over. Cycles of 400, 100, 4 and 1 years are taken off;
the last day of a cycle belongs to the year before the next one. -/
def yearOf (number : Nat) : Nat × Nat :=
  let d := number - 1
  let n400 := d / daysOfCycle
  let d := d % daysOfCycle
  let n100 := min (d / 36524) 3
  let d := d - n100 * 36524
  let n4 := d / 1461
  let d := d % 1461
  let n1 := min (d / 365) 3
  (400 * n400 + 100 * n100 + 4 * n4 + n1 + 1, d - n1 * 365)

def monthOf (year month : Nat) : Nat → Nat → Nat × Nat
  | 0, passed => (month, passed + 1)
  | later + 1, passed =>
    if passed < daysInMonth year month then (month, passed + 1)
    else monthOf year (month + 1) later (passed - daysInMonth year month)

def dateOf (number : Nat) : Nat × Nat × Nat :=
  let (year, passed) := yearOf number
  (year, monthOf year 1 11 passed)

def yearOfCycle (year : Int) : Nat := ((year - 1).emod 400).toNat + 1

def cycleOf (year : Int) : Int := (year - 1).fdiv 400

end Calendar

structure CivilTime where
  year : Int
  month : Nat
  day : Nat
  hour : Nat
  minute : Nat
  second : Nat
  deriving DecidableEq

def Moment.civil (m : Moment) : CivilTime :=
  { year := m.year, month := m.month, day := m.day, hour := m.hour, minute := m.minute,
    second := m.second }

namespace CivilTime

def secondsPerDay : Nat := 86400

def epochDay : Nat := Calendar.dayNumber 1970 1 1

def ofUnix (seconds : Int) : CivilTime :=
  let passed := (epochDay : Int) - 1 + seconds.fdiv secondsPerDay
  let second := (seconds.fmod secondsPerDay).toNat
  let (year, month, day) := Calendar.dateOf ((passed.fmod Calendar.daysOfCycle).toNat + 1)
  { year := (year : Int) + 400 * passed.fdiv Calendar.daysOfCycle
    month
    day
    hour := second / 3600
    minute := second / 60 % 60
    second := second % 60 }

def dayOfCycle (t : CivilTime) : Nat :=
  Calendar.dayNumber (Calendar.yearOfCycle t.year) t.month t.day

def toUnix (t : CivilTime) : Int :=
  let days := (t.dayOfCycle : Int) + Calendar.daysOfCycle * Calendar.cycleOf t.year - epochDay
  ((days * 24 + t.hour) * 60 + t.minute) * 60 + t.second

def dayOfYear (t : CivilTime) : Nat :=
  Calendar.daysBeforeMonth (Calendar.yearOfCycle t.year) t.month + t.day - 1

/-- Days since the last Monday. The first day of a cycle is a Monday. -/
def weekday (t : CivilTime) : Nat := (t.dayOfCycle - 1) % 7

def toMoment? (t : CivilTime) (microsecond : Nat) : Option Moment :=
  if t.year < 0 then none
  else Moment.of? t.year.toNat t.month t.day t.hour t.minute t.second microsecond

end CivilTime

end RecordPipeline
