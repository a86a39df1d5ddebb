set_option autoImplicit false

namespace RecordPipeline

-- A power, or the sum of a list, is the core library's one here, whatever else is imported.
scoped instance (priority := high) natPower : Pow Nat Nat := instPowNat
scoped instance (priority := high) intPower : Pow Int Nat := instPowNat
scoped instance (priority := high) natZero : Zero Nat := Zero.ofOfNat0

namespace Numeral

/-- Numerals of more digits than this are neither read nor written. -/
def digitLimit : Nat := 4300

def digits (n : Nat) : List Char := Nat.toDigits 10 n

def value (ds : List Char) : Nat := Nat.ofDigitChars 10 ds 0

def isRun (ds : List Char) : Bool := !ds.isEmpty && ds.all Char.isDigit

@[simp] theorem value_digits (n : Nat) : value (digits n) = n :=
  Nat.ofDigitChars_toDigits (by decide) (by decide)

theorem isRun_digits (n : Nat) : isRun (digits n) = true := by
  simp only [isRun, digits, Bool.and_eq_true, Bool.not_eq_true', List.isEmpty_eq_false_iff,
    List.all_eq_true]
  exact ⟨Nat.toDigits_ne_nil, fun c h => Nat.isDigit_of_mem_toDigits (by decide) (by decide) h⟩

theorem length_digits_le_iff {n k : Nat} (h : 0 < k) : (digits n).length ≤ k ↔ n < 10 ^ k :=
  Nat.length_toDigits_le_iff (by decide) h

def signed (n : Int) : List Char :=
  if n < 0 then '-' :: digits n.natAbs else digits n.natAbs

def padded (width n : Nat) : List Char :=
  List.replicate (width - (digits n).length) '0' ++ digits n

@[simp] theorem value_padded (width n : Nat) : value (padded width n) = n := by
  have h := value_digits n
  simp only [value, digits] at h
  simp [value, padded, digits, Nat.ofDigitChars_append, Nat.ofDigitChars_replicate_zero, h]

/-- Whether an integer has too many digits to be written: it reaches a power of ten. That of a number of
few digits is plain without the power. -/
def tooLong (n : Int) : Bool := if n.natAbs < 10 ^ (18 : Nat) then false else 10 ^ digitLimit ≤ n.natAbs

theorem tooLong_iff (n : Int) : tooLong n = true ↔ digitLimit < (digits n.natAbs).length := by
  have h := length_digits_le_iff (n := n.natAbs) (k := digitLimit) (by decide)
  have small : 10 ^ (18 : Nat) ≤ 10 ^ digitLimit := Nat.pow_le_pow_right (by decide) (by decide)
  by_cases few : n.natAbs < 10 ^ (18 : Nat)
  · simp only [tooLong, few, if_true, Bool.false_eq_true, false_iff]
    omega
  · simp only [tooLong, few, if_false, decide_eq_true_eq]
    omega

end Numeral

end RecordPipeline
