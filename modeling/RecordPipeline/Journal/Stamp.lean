import RecordPipeline.Double.Basic
import RecordPipeline.Moment.Pattern.Fill
set_option autoImplicit false

/-!
Times of journal entries: seconds since the start of 1970, written by a date pattern or with
milliseconds behind them. Clocks count seconds in 64 bits, and calendars years since 1900 in 32.
-/

namespace RecordPipeline.Journal

inductive StampFault where
  | beyondClock
  | beyondCalendar
  | yearTooGreat
  | nullInPattern
  deriving DecidableEq

def StampFault.message : StampFault → String
  | .beyondClock => "timestamp out of range for platform time_t"
  | .beyondCalendar => "[Errno 75] Value too large for defined data type"
  | .yearTooGreat => "signed integer is greater than maximum"
  | .nullInPattern => "embedded null character"

def fitsBits (bits : Nat) (n : Int) : Bool := -2 ^ (bits - 1) ≤ n && n < 2 ^ (bits - 1)

def civilOf (seconds : Double) : Except StampFault CivilTime :=
  match seconds.floor? with
  | none => .error .beyondClock
  | some n =>
    let t := CivilTime.ofUnix n
    if !fitsBits 64 n then .error .beyondClock
    else if !fitsBits 32 (t.year - 1900) then .error .beyondCalendar
    else .ok t

def patternText (pattern : String) (t : CivilTime) : Except StampFault String :=
  if !fitsBits 32 t.year then .error .yearTooGreat
  else if pattern.toList.contains '\x00' then .error .nullInPattern
  else .ok (t.formatWith pattern)

def datePattern : String := "%Y-%m-%d %H:%M:%S"

def signedPadded (width : Nat) (n : Int) : List Char :=
  if n < 0 then '-' :: Numeral.padded (width - 1) n.natAbs else Numeral.padded width n.natAbs

structure Stamp where
  seconds : Double
  milliseconds : Int

namespace Stamp

/-- Text by a pattern, or with milliseconds after a comma if there is none. An empty pattern is none. -/
def text (pattern : Option String) (s : Stamp) : Except StampFault String := do
  let t ← civilOf s.seconds
  match pattern with
  | none | some "" =>
    return (← patternText datePattern t) ++ String.ofList (',' :: signedPadded 3 s.milliseconds)
  | some pattern => patternText pattern t

end Stamp

def timeOf (now : Moment) : String := now.civil.formatWith datePattern

end RecordPipeline.Journal
