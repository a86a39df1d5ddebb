import RecordPipeline.Value.Basic
set_option autoImplicit false

namespace RecordPipeline

def isTimesTen (n : Int) (k : Nat) (m : Int) : Bool :=
  if n = 0 || m.natAbs.log2 < 3 * k then n = 0 && m = 0 else n * 10 ^ k = m

theorem natAbs_lt_ten_pow_of_log2_lt {m : Int} {k : Nat} (h : m.natAbs.log2 < 3 * k) : m.natAbs < 10 ^ k :=
  calc m.natAbs < 2 ^ (m.natAbs.log2 + 1) := Nat.lt_log2_self
    _ ≤ 2 ^ (3 * k) := Nat.pow_le_pow_right (by decide) h
    _ = 8 ^ k := by rw [Nat.pow_mul]
    _ ≤ 10 ^ k := Nat.pow_le_pow_left (by decide) k

theorem isTimesTen_iff (n : Int) (k : Nat) (m : Int) : isTimesTen n k m = true ↔ n * 10 ^ k = m := by
  by_cases hn : n = 0
  · simp [isTimesTen, hn, eq_comm]
  · by_cases h : m.natAbs.log2 < 3 * k
    · simp only [isTimesTen, h, decide_true, Bool.or_true, if_true, hn, decide_false, Bool.false_and]
      constructor
      · simp
      · intro e
        have small := natAbs_lt_ten_pow_of_log2_lt h
        have : m.natAbs = n.natAbs * 10 ^ k := by rw [← e, Int.natAbs_mul, Int.natAbs_pow]; rfl
        have := Nat.le_mul_of_pos_left (10 ^ k) (Int.natAbs_pos.mpr hn)
        omega
    · simp [isTimesTen, hn, h]

/-- A quotient times a power of ten. -/
structure Quantity where
  num : Int
  den : Nat := 1
  tens : Int := 0

namespace Quantity

def same (a b : Quantity) : Bool :=
  if b.tens ≤ a.tens then isTimesTen (a.num * b.den) (a.tens - b.tens).toNat (b.num * a.den)
  else isTimesTen (b.num * a.den) (b.tens - a.tens).toNat (a.num * b.den)

theorem same_iff (a b : Quantity) :
    a.same b = true ↔
      a.num * b.den * 10 ^ (a.tens - b.tens).toNat = b.num * a.den * 10 ^ (b.tens - a.tens).toNat := by
  unfold same
  split
  · rename_i h
    have : (b.tens - a.tens).toNat = 0 := by omega
    simp [isTimesTen_iff, this]
  · rename_i h
    have : (a.tens - b.tens).toNat = 0 := by omega
    rw [isTimesTen_iff, this, Int.pow_zero, Int.mul_one]
    exact eq_comm

end Quantity

/-- Exact value of a real number. -/
inductive Exact where
  | finite (q : Quantity)
  | infinite (negative : Bool)
  | nan (signaling : Bool)

namespace Exact

def ofInt (n : Int) : Exact := .finite { num := n }

def ofDouble : Double → Exact
  | .finite negative m q _ =>
    let (num, den) := Double.ratio m q
    .finite { num := if negative then -(num : Int) else num, den }
  | .infinite negative => .infinite negative
  | .nan => .nan false

def ofDecimal : Decimal → Exact
  | .finite negative c e => .finite { num := if negative then -(c : Int) else c, tens := e }
  | .infinite negative => .infinite negative
  | .nan _ signaling _ => .nan signaling

def isSignaling : Exact → Bool
  | .nan signaling => signaling
  | _ => false

def same : Exact → Exact → Bool
  | .finite p, .finite q => p.same q
  | .infinite a, .infinite b => a = b
  | _, _ => false

def equal (a b : Exact) : Except ValueFault Bool :=
  if a.isSignaling || b.isSignaling then .error .signalingComparison else .ok (a.same b)

end Exact

end RecordPipeline
