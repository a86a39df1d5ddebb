import RecordPipeline.Moment.Civil
import RecordPipeline.Moment.Pattern.Basic
set_option autoImplicit false

/-!
Filling in date patterns for a date and time in Coordinated Universal Time. Names are English ones, and
years are not padded. A text that outgrows the room that its pattern gives it is left out altogether.
-/

namespace RecordPipeline

namespace CivilTime

def weekdayNames : List String :=
  ["Monday", "Tuesday", "Wednesday", "Thursday", "Friday", "Saturday", "Sunday"]

def monthNames : List String :=
  ["January", "February", "March", "April", "May", "June", "July", "August", "September", "October",
   "November", "December"]

def weekdayName (t : CivilTime) : List Char := (weekdayNames[t.weekday]?.getD "").toList

def monthName (t : CivilTime) : List Char := (monthNames[t.month - 1]?.getD "").toList

def halfDayHour (t : CivilTime) : Nat := if t.hour % 12 = 0 then 12 else t.hour % 12

def halfDay (t : CivilTime) : List Char := (if t.hour < 12 then "AM" else "PM").toList

def weekOfYear (t : CivilTime) (start : Nat) : Nat :=
  (t.dayOfYear + 7 - (t.weekday + 7 - start) % 7) / 7

def hasLongYear (year : Int) : Bool :=
  let year := Calendar.yearOfCycle year
  let first := Calendar.daysBeforeYear year % 7
  first = 3 || (first = 2 && Calendar.isLeap year)

/-- Year and week, a week belonging to the year of its Thursday. Years are counted in 32 bits. -/
def weekDate (t : CivilTime) : Int × Nat :=
  let week := (t.dayOfYear + 10 - t.weekday) / 7
  if week = 0 then (t.year - 1, if hasLongYear (t.year - 1) then 53 else 52)
  else if week = 53 && !hasLongYear t.year then (Int.bmod (t.year + 1) (2 ^ (32 : Nat)), 1)
  else (t.year, week)

end CivilTime

namespace DatePattern

inductive Part where
  | number (digits : Nat) (n : Int)
  | aligned (characters : Nat) (n : Int)
  | name (cs : List Char)
  | abbreviation (cs : List Char)
  | plain (cs : List Char)
  | ahead
  | pattern (cs : String)
  deriving DecidableEq

namespace Part

def of? (t : CivilTime) : Char → Option Part
  | 'Y' => some (.number 1 t.year)
  | 'C' => some (.number 1 (t.year.fdiv 100))
  | 'y' => some (.number 2 (t.year.fmod 100))
  | 'm' => some (.number 2 t.month)
  | 'd' => some (.number 2 t.day)
  | 'e' => some (.aligned 2 t.day)
  | 'H' => some (.number 2 t.hour)
  | 'k' => some (.aligned 2 t.hour)
  | 'I' => some (.number 2 t.halfDayHour)
  | 'l' => some (.aligned 2 t.halfDayHour)
  | 'M' => some (.number 2 t.minute)
  | 'S' => some (.number 2 t.second)
  | 's' => some (.plain (Numeral.signed t.toUnix))
  | 'j' => some (.number 3 (t.dayOfYear + 1 : Nat))
  | 'u' => some (.number 1 (t.weekday + 1 : Nat))
  | 'w' => some (.number 1 ((t.weekday + 1) % 7 : Nat))
  | 'U' => some (.number 2 (t.weekOfYear 6))
  | 'W' => some (.number 2 (t.weekOfYear 0))
  | 'G' => some (.number 1 t.weekDate.1)
  | 'g' => some (.number 2 (t.weekDate.1.fmod 100))
  | 'V' => some (.number 2 t.weekDate.2)
  | 'a' => some (.name (t.weekdayName.take 3))
  | 'A' => some (.name t.weekdayName)
  | 'b' | 'h' => some (.name (t.monthName.take 3))
  | 'B' => some (.name t.monthName)
  | 'p' => some (.abbreviation t.halfDay)
  | 'P' => some (.plain (t.halfDay.map Char.toLower))
  | 'Z' => some (.abbreviation "UTC".toList)
  | 'z' => some .ahead
  | 'n' => some (.plain ['\n'])
  | 't' => some (.plain ['\t'])
  | '%' => some (.plain ['%'])
  | 'c' => some (.pattern "%a %b %e %H:%M:%S %Y")
  | 'D' | 'x' => some (.pattern "%m/%d/%y")
  | 'F' => some (.pattern "%Y-%m-%d")
  | 'R' => some (.pattern "%H:%M")
  | 'T' | 'X' => some (.pattern "%H:%M:%S")
  | 'r' => some (.pattern "%I:%M:%S %p")
  | _ => none

def without : Variant → List Char
  | .eras => "aAbBhdDeFgGHIjklmMSUVwW%".toList
  | .digits => "aAcDFxXY%".toList

def ofSlot? (t : CivilTime) (s : Slot) : Option Part := do
  let letter ← s.letter
  if s.variant.any fun v => (without v).contains letter then none else of? t letter

end Part

namespace Slot

def pad (s : Slot) (cs : List Char) : List Char :=
  List.replicate (s.width - cs.length) (if s.filler = some .zeros then '0' else ' ') ++ cs

def number (s : Slot) (filler : Filler) (digits : Nat) (n : Int) : List Char :=
  let cs := Numeral.signed n
  let missing := max digits s.width - cs.length
  match filler with
  | .zeros =>
    if n < 0 then '-' :: (List.replicate missing '0' ++ cs.drop 1) else List.replicate missing '0' ++ cs
  | .blanks => List.replicate missing ' ' ++ cs
  | .nothing => s.pad cs

def raise (s : Slot) (cs : List Char) : List Char := if s.capitals then cs.map Char.toUpper else cs

/-- Short names of months turn to capitals before their variant is looked at. -/
def raisesSource (s : Slot) : Bool :=
  s.capitals || (s.otherCase && (s.letter = some 'b' || s.letter = some 'h'))

def asWritten (s : Slot) : List Char :=
  s.pad <|
    if s.letter = some '%' then ['%']
    else if s.raisesSource then s.source.map Char.toUpper
    else s.source

def write (s : Slot) (inner : List Char → List Char) : Part → List Char
  | .number digits n => s.number (s.filler.getD .zeros) digits n
  | .aligned characters n => s.number (s.filler.getD .blanks) characters n
  | .name cs => s.pad (if s.otherCase then cs.map Char.toUpper else s.raise cs)
  | .abbreviation cs => s.pad (if s.otherCase then cs.map Char.toLower else cs)
  | .plain cs => s.pad cs
  | .ahead => s.pad ['+'] ++ s.number (s.filler.getD .zeros) 4 0
  | .pattern p => s.pad (s.raise (inner p.toList))

end Slot

/-- Text of a piece; nothing when its width alone takes all the room. `inner` fills in the pattern
that a slot stands for. -/
def writePiece (t : CivilTime) (room : Nat) (inner : List Char → List Char) : Piece → Option (List Char)
  | .literal c => some [c]
  | .slot s =>
    if room ≤ s.width then none
    else match Part.ofSlot? t s with
      | some part => some (s.write inner part)
      | none => some s.asWritten

def writePieces (t : CivilTime) (room : Nat) (inner : List Char → List Char) (ps : List Piece) :
    Option (List Char) :=
  (ps.mapM (writePiece t room inner)).map List.flatten

def fillFlat (t : CivilTime) (pattern : List Char) : List Char :=
  (writePieces t 1 (fun cs => cs) (pieces pattern)).getD []

/-- Text of a pattern has to stay below this length: a power of two, and at least 256 characters for
each one of the pattern. -/
def roomFor (pattern : List Char) : Nat := max 1024 (256 * pattern.length).nextPowerOfTwo

def fill (pattern : List Char) (t : CivilTime) : List Char :=
  match writePieces t (roomFor pattern) (fillFlat t) (pieces pattern) with
  | some cs => if cs.length < roomFor pattern then cs else []
  | none => []

end DatePattern

def CivilTime.formatWith (pattern : String) (t : CivilTime) : String :=
  String.ofList (DatePattern.fill pattern.toList t)

end RecordPipeline
