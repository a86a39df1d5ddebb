import RecordPipeline.Moment.Basic
set_option autoImplicit false

namespace RecordPipeline

namespace Timestamp

/-- Microseconds are cut to milliseconds. The year is not padded, so only moments from year 1000 on are
written in the form that the reader takes. -/
def formatChars (m : Moment) : List Char :=
  Numeral.digits m.year ++ '-' :: Numeral.padded 2 m.month ++ '-' :: Numeral.padded 2 m.day ++
    'T' :: Numeral.padded 2 m.hour ++ ':' :: Numeral.padded 2 m.minute ++
    ':' :: Numeral.padded 2 m.second ++ '.' :: Numeral.padded 3 (m.microsecond / 1000) ++ ['Z']

def format (m : Moment) : String := String.ofList (formatChars m)

def readNumber (width : Nat) (cs : List Char) : Option (Nat × List Char) :=
  let ds := cs.take width
  if ds.length = width && ds.all Char.isDigit then some (Numeral.value ds, cs.drop width) else none

def readMark (mark : Char) : List Char → Option (List Char)
  | c :: cs => if c = mark then some cs else none
  | [] => none

def readChars? (cs : List Char) : Option Moment := do
  let (year, cs) ← readNumber 4 cs
  let cs ← readMark '-' cs
  let (month, cs) ← readNumber 2 cs
  let cs ← readMark '-' cs
  let (day, cs) ← readNumber 2 cs
  let cs ← readMark 'T' cs
  let (hour, cs) ← readNumber 2 cs
  let cs ← readMark ':' cs
  let (minute, cs) ← readNumber 2 cs
  let cs ← readMark ':' cs
  let (second, cs) ← readNumber 2 cs
  let cs ← readMark '.' cs
  let (millisecond, cs) ← readNumber 3 cs
  let cs ← readMark 'Z' cs
  if cs.isEmpty then Moment.of? year month day hour minute second (millisecond * 1000) else none

def isValid (s : String) : Bool := (readChars? s.toList).isSome

end Timestamp

end RecordPipeline
