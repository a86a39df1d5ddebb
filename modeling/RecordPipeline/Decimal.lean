import RecordPipeline.Double.Literal
set_option autoImplicit false

/-!
Decimal floating-point numbers: a coefficient times a power of ten, the two infinities, and quiet and
signaling NaNs with a payload. Trailing zeros of the coefficient are part of the number.
-/

namespace RecordPipeline

inductive Decimal where
  | finite (negative : Bool) (coefficient : Nat) (exponent : Int)
  | infinite (negative : Bool)
  | nan (negative signaling : Bool) (payload : Nat)
  deriving DecidableEq

namespace Decimal

def toRat? : Decimal → Option Rat
  | .finite negative c e =>
    let r := mkRat (c * 10 ^ e.toNat : Nat) (10 ^ (-e).toNat)
    some (if negative then -r else r)
  | _ => none

/-- Drops the fraction of a finite number. A power of ten beyond the coefficient leaves nothing, so no
greater one is formed. -/
def truncate? : Decimal → Option Int
  | .finite _ 0 _ => some 0
  | .finite negative c e =>
    let n : Int := (c * 10 ^ e.toNat / 10 ^ min (-e).toNat (Numeral.digits c).length : Nat)
    some (if negative then -n else n)
  | _ => none

def isZero : Decimal → Bool
  | .finite _ c _ => c = 0
  | _ => false

def isSignaling : Decimal → Bool
  | .nan _ signaling _ => signaling
  | _ => false

/-- Digits of a coefficient around its point. The point stays within the number unless the exponent is
positive or the number is below 0.000001, where one digit stands before it and an exponent follows. -/
def renderFinite (coefficient : Nat) (exponent : Int) : List Char :=
  let ds := Numeral.digits coefficient
  let reach : Int := ds.length + exponent
  if exponent = 0 then ds
  else if exponent < 0 && -6 < reach then
    if 0 < reach then ds.take reach.toNat ++ '.' :: ds.drop reach.toNat
    else '0' :: '.' :: (List.replicate (-reach).toNat '0' ++ ds)
  else
    let tail := ds.drop 1
    let lead := reach - 1
    ds.take 1 ++ (if tail.isEmpty then [] else '.' :: tail) ++
      (if lead = 0 then []
       else 'E' :: (if lead < 0 then '-' else '+') :: Numeral.digits lead.natAbs)

def render : Decimal → List Char
  | .finite negative c e => (if negative then ['-'] else []) ++ renderFinite c e
  | .infinite negative => (if negative then ['-'] else []) ++ "Infinity".toList
  | .nan negative signaling payload =>
    (if negative then ['-'] else []) ++ (if signaling then ['s'] else []) ++ "NaN".toList ++
      (if payload = 0 then [] else Numeral.digits payload)

def text (d : Decimal) : String := String.ofList d.render

def readPayload? (ds : List Char) : Option Nat :=
  if ds.all Char.isDigit then some (Numeral.value ds) else none

def read? (cs : List Char) : Option Decimal :=
  match Literal.read? cs with
  | some l =>
    some (.finite l.negative (Numeral.value (l.whole ++ l.fraction))
      (l.exponent - l.fraction.length))
  | none =>
    let (negative, word) := Literal.readSign cs
    if word = "Infinity".toList then some (.infinite negative)
    else match word with
      | 'N' :: 'a' :: 'N' :: ds => (readPayload? ds).map (.nan negative false ·)
      | 's' :: 'N' :: 'a' :: 'N' :: ds => (readPayload? ds).map (.nan negative true ·)
      | _ => none

end Decimal

end RecordPipeline
