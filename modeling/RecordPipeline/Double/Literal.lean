import RecordPipeline.Double.Basic
import RecordPipeline.Text.Numeral
set_option autoImplicit false

namespace RecordPipeline

namespace Double

/-- The number nearest to a decimal. Magnitudes from 10^309 on are infinite and those below 10^-324 are
zero, so powers of ten stay small whatever the exponent. -/
def ofScientific (negative : Bool) (coefficient : Nat) (exponent : Int) : Double :=
  let reach : Int := (Numeral.digits coefficient).length + exponent
  if coefficient = 0 || reach ≤ -324 then zero negative
  else if 309 < reach then .infinite negative
  else ofRatio negative (coefficient * 10 ^ exponent.toNat) (10 ^ (-exponent).toNat)

end Double

structure Literal where
  negative : Bool
  whole : List Char
  fraction : List Char
  exponent : Int
  deriving DecidableEq

namespace Literal

def readSign : List Char → Bool × List Char
  | '-' :: cs => (true, cs)
  | '+' :: cs => (false, cs)
  | cs => (false, cs)

def readExponent : List Char → Option Int
  | [] => some 0
  | mark :: cs =>
    if mark = 'e' || mark = 'E' then
      let (negative, ds) := readSign cs
      if Numeral.isRun ds then
        some (if negative then -(Numeral.value ds : Int) else Numeral.value ds)
      else none
    else none

def readFraction : List Char → List Char × List Char
  | '.' :: cs => cs.span Char.isDigit
  | cs => ([], cs)

def read? (cs : List Char) : Option Literal :=
  let (negative, cs) := readSign cs
  let (whole, cs) := cs.span Char.isDigit
  let (fraction, cs) := readFraction cs
  if whole.isEmpty && fraction.isEmpty then none
  else (readExponent cs).map fun exponent => { negative, whole, fraction, exponent }

def nearest (l : Literal) : Double :=
  Double.ofScientific l.negative (Numeral.value (l.whole ++ l.fraction))
    (l.exponent - l.fraction.length)

end Literal

/-- Reads a decimal literal, or one of the words `NaN` and `Infinity` with an optional sign. -/
def Double.read? (cs : List Char) : Option Double :=
  match Literal.read? cs with
  | some l => some l.nearest
  | none =>
    let (negative, word) := Literal.readSign cs
    if word = "NaN".toList then some .nan
    else if word = "Infinity".toList then some (.infinite negative)
    else none

end RecordPipeline
