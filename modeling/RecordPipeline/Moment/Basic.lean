import RecordPipeline.Double.Basic
import RecordPipeline.Text.Numeral
set_option autoImplicit false

namespace RecordPipeline

namespace Calendar

def isLeap (year : Nat) : Bool := year % 4 = 0 && (year % 100 ≠ 0 || year % 400 = 0)

def daysInMonth (year month : Nat) : Nat :=
  match month with
  | 2 => if isLeap year then 29 else 28
  | 4 | 6 | 9 | 11 => 30
  | _ => 31

def daysBeforeYear (year : Nat) : Nat :=
  let y := year - 1
  y * 365 + y / 4 - y / 100 + y / 400

def daysBeforeMonth (year month : Nat) : Nat :=
  ((List.range (month - 1)).map fun m => daysInMonth year (m + 1)).sum

def dayNumber (year month day : Nat) : Nat :=
  daysBeforeYear year + daysBeforeMonth year month + day

end Calendar

def Moment.IsReal (year month day hour minute second microsecond : Nat) : Prop :=
  (1 ≤ year ∧ year ≤ 9999) ∧ (1 ≤ month ∧ month ≤ 12) ∧
    (1 ≤ day ∧ day ≤ Calendar.daysInMonth year month) ∧
    hour ≤ 23 ∧ minute ≤ 59 ∧ second ≤ 59 ∧ microsecond ≤ 999999

instance (year month day hour minute second microsecond : Nat) :
    Decidable (Moment.IsReal year month day hour minute second microsecond) :=
  inferInstanceAs (Decidable ((_ ∧ _) ∧ (_ ∧ _) ∧ (_ ∧ _) ∧ _))

/-- A moment of the Gregorian calendar as a clock on the wall shows it. It has no time zone, so moments
are told apart and ordered by these parts alone. -/
structure Moment where
  year : Nat
  month : Nat
  day : Nat
  hour : Nat
  minute : Nat
  second : Nat
  microsecond : Nat
  isReal : Moment.IsReal year month day hour minute second microsecond

namespace Moment

def of? (year month day hour minute second microsecond : Nat) : Option Moment :=
  if h : IsReal year month day hour minute second microsecond then
    some ⟨year, month, day, hour, minute, second, microsecond, h⟩
  else none

def epoch : Moment := ⟨1970, 1, 1, 0, 0, 0, 0, by decide⟩

instance : Inhabited Moment := ⟨epoch⟩

def microseconds (m : Moment) : Nat :=
  (((Calendar.dayNumber m.year m.month m.day * 24 + m.hour) * 60 + m.minute) * 60 + m.second) *
    1000000 + m.microsecond

def secondsBetween (first last : Moment) : Double :=
  Double.ofRat (mkRat ((last.microseconds : Int) - first.microseconds) 1000000)

def isoText (m : Moment) : String :=
  String.ofList <|
    Numeral.padded 4 m.year ++ '-' :: Numeral.padded 2 m.month ++ '-' :: Numeral.padded 2 m.day ++
      'T' :: Numeral.padded 2 m.hour ++ ':' :: Numeral.padded 2 m.minute ++
      ':' :: Numeral.padded 2 m.second ++
      (if m.microsecond = 0 then [] else '.' :: Numeral.padded 6 m.microsecond)

/-- Date and time without separators, an underscore between them; the year is not padded. -/
def compactText (m : Moment) : String :=
  String.ofList <|
    Numeral.digits m.year ++ Numeral.padded 2 m.month ++ Numeral.padded 2 m.day ++
      '_' :: Numeral.padded 2 m.hour ++ Numeral.padded 2 m.minute ++ Numeral.padded 2 m.second

end Moment

end RecordPipeline
