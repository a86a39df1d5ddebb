import RecordPipeline.Double.Literal
set_option autoImplicit false

namespace RecordPipeline

structure Figures where
  coefficient : Nat
  exponent : Int
  deriving DecidableEq

namespace Figures

def floorLog10 (num den : Nat) : Int :=
  if den ≤ num then ((Numeral.digits (num / den)).length : Int) - 1
  else -((Numeral.digits ((den - 1) / num)).length : Int)

def carry (coefficient : Nat) (exponent : Int) : Figures :=
  if coefficient = 10 then ⟨1, exponent + 1⟩ else ⟨coefficient, exponent⟩

/-- The two neighbours of a quotient among the multiples of a power of ten, the nearer one first. -/
def neighbours (num den : Nat) (exponent : Int) : List Figures :=
  let scaled := num * 10 ^ (-exponent).toNat
  let unit := den * 10 ^ exponent.toNat
  let c := scaled / unit
  if Double.roundHalfEven scaled unit = c then [carry c exponent, carry (c + 1) exponent]
  else [carry (c + 1) exponent, carry c exponent]

def nearest (f : Figures) : Double := Double.ofScientific false f.coefficient f.exponent

def exact (significand : Nat) (exponent : Int) : Figures :=
  ⟨significand * 2 ^ exponent.toNat * 5 ^ (-exponent).toNat, min exponent 0⟩

/-- Tries one digit, two digits and so on up to seventeen. -/
def shortest (significand : Nat) (exponent : Int) : Figures :=
  let (num, den) := Double.ratio significand exponent
  let lead := floorLog10 num den
  let target := Double.ofParts false significand exponent
  let found := (List.range 17).findSome? fun (k : Nat) =>
    (neighbours num den (lead - k)).find? fun f => f.nearest = target
  found.getD (exact significand exponent)

end Figures

end RecordPipeline
