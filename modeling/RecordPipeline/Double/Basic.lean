import RecordPipeline.Text.Numeral
set_option autoImplicit false

/-!
Binary64 numbers as exact data. A finite number is a sign, a significand and a power of two in the one
form that the format stores, so two finite numbers of different data differ in value or in the sign of
zero. Rounding is to the nearest number, ties to the even significand.
-/

namespace RecordPipeline

def Double.Canonical (significand : Nat) (exponent : Int) : Prop :=
  significand < 2 ^ (53 : Nat) ∧ -1074 ≤ exponent ∧ exponent ≤ 971 ∧
    (exponent = -1074 ∨ 2 ^ (52 : Nat) ≤ significand)

instance (significand : Nat) (exponent : Int) : Decidable (Double.Canonical significand exponent) :=
  inferInstanceAs (Decidable (_ ∧ _))

inductive Double where
  | finite (negative : Bool) (significand : Nat) (exponent : Int)
      (canonical : Double.Canonical significand exponent)
  | infinite (negative : Bool)
  | nan
  deriving DecidableEq

namespace Double

def zero (negative : Bool) : Double := .finite negative 0 (-1074) (by decide)

instance : Inhabited Double := ⟨zero false⟩

def ofParts (negative : Bool) (significand : Nat) (exponent : Int) : Double :=
  if h : Canonical significand exponent then .finite negative significand exponent h
  else .infinite negative

def roundHalfEven (num den : Nat) : Nat :=
  let q := num / den
  let r := num % den
  if 2 * r < den then q
  else if den < 2 * r then q + 1
  else if q % 2 = 0 then q else q + 1

def floorLog2 (num den : Nat) : Int :=
  let l : Int := (num.log2 : Int) - den.log2
  if den * 2 ^ l.toNat ≤ num * 2 ^ (-l).toNat then l else l - 1

def ofRatio (negative : Bool) (num den : Nat) : Double :=
  if num = 0 then zero negative
  else
    let exponent := max (floorLog2 num den - 52) (-1074)
    let significand := roundHalfEven (num * 2 ^ (-exponent).toNat) (den * 2 ^ exponent.toNat)
    if significand = 2 ^ (53 : Nat) then ofParts negative (2 ^ (52 : Nat)) (exponent + 1)
    else ofParts negative significand exponent

def ofRat (r : Rat) : Double := ofRatio (r.num < 0) r.num.natAbs r.den

def ofInt? (n : Int) : Option Double :=
  match ofRatio (n < 0) n.natAbs 1 with
  | .infinite _ => none
  | d => some d

def ratio (significand : Nat) (exponent : Int) : Nat × Nat :=
  (significand * 2 ^ exponent.toNat, 2 ^ (-exponent).toNat)

def toRat? : Double → Option Rat
  | .finite negative m q _ =>
    let r := mkRat (ratio m q).1 (ratio m q).2
    some (if negative then -r else r)
  | _ => none

def truncate? : Double → Option Int
  | .finite negative m q _ =>
    let n : Int := ((ratio m q).1 / (ratio m q).2 : Nat)
    some (if negative then -n else n)
  | _ => none

def isZero : Double → Bool
  | .finite _ m _ _ => m = 0
  | _ => false

/-- Numerical equality: zeros of both signs are equal, and nothing equals `nan`. -/
def numEq (a b : Double) : Bool :=
  if a.isZero && b.isZero then true else a ≠ .nan && a = b

def isNegative : Double → Bool
  | .finite negative _ _ _ => negative
  | .infinite negative => negative
  | .nan => false

def neg : Double → Double
  | .finite negative m q h => .finite (!negative) m q h
  | .infinite negative => .infinite (!negative)
  | .nan => .nan

def scale (d : Double) (k : Nat) : Double :=
  match d with
  | .finite negative m q _ => ofRatio negative ((ratio m q).1 * k) (ratio m q).2
  | d => d

/-- Difference, rounded. Equal finite numbers differ by the positive zero, a negative zero less a
positive one apart. -/
def sub (a b : Double) : Double :=
  match a, b with
  | .nan, _ | _, .nan => .nan
  | .infinite s, .infinite t => if s = t then .nan else .infinite s
  | .infinite s, _ => .infinite s
  | _, .infinite t => .infinite (!t)
  | .finite .., .finite .. =>
    match a.toRat?, b.toRat? with
    | some x, some y =>
      if x = y then zero (a.isZero && a.isNegative && !b.isNegative) else ofRat (x - y)
    | _, _ => .nan

def add (a b : Double) : Double := a.sub b.neg

def floor? : Double → Option Int
  | .finite negative m q _ =>
    let n : Int := if negative then -((ratio m q).1 : Int) else (ratio m q).1
    some (n.fdiv (ratio m q).2)
  | _ => none

end Double

end RecordPipeline
