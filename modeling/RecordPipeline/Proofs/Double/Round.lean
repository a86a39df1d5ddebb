import Mathlib.Algebra.Order.Field.Power
import Mathlib.Data.Rat.Cast.Order
import Mathlib.Tactic.Positivity
import Mathlib.Tactic.Ring
import RecordPipeline.Double.Basic
set_option autoImplicit false

/-!
Rounding of quotients. It looks at the value of a quotient only, it keeps what a canonical pair of
significand and exponent denotes, and it overflows from the midpoint above the greatest finite
number on.
-/

namespace RecordPipeline

theorem zpow_mul_pow_toNat {b : Nat} (positive : 0 < b) (e : Int) :
    (b : ℚ) ^ e * (b : ℚ) ^ (-e).toNat = (b : ℚ) ^ e.toNat := by
  have nonzero : (b : ℚ) ≠ 0 := by exact_mod_cast positive.ne'
  rw [← zpow_natCast, ← zpow_natCast, ← zpow_add₀ nonzero]
  congr 1
  omega

/-- A multiple of a power is a quotient in which every power is a whole number. -/
theorem mul_zpow_eq_div {b : Nat} (positive : 0 < b) (k : Nat) (e : Int) :
    (k : ℚ) * (b : ℚ) ^ e = ((k * b ^ e.toNat : Nat) : ℚ) / ((b ^ (-e).toNat : Nat) : ℚ) := by
  have factor : ((b ^ (-e).toNat : Nat) : ℚ) ≠ 0 := by exact_mod_cast (Nat.pow_pos positive).ne'
  rw [eq_div_iff factor]
  push_cast
  rw [mul_assoc, zpow_mul_pow_toNat positive]

theorem mul_zpow_le_div_iff {b den : Nat} (positive : 0 < b) (hd : 0 < den) (k num : Nat) (e : Int) :
    (k : ℚ) * (b : ℚ) ^ e ≤ num / den ↔ k * (den * b ^ e.toNat) ≤ num * b ^ (-e).toNat := by
  have base : (0 : ℚ) < b := by exact_mod_cast positive
  have bottom : (0 : ℚ) < den := by exact_mod_cast hd
  have factor : (0 : ℚ) < (b : ℚ) ^ (-e).toNat := by positivity
  rw [le_div_iff₀ bottom, ← mul_le_mul_iff_left₀ factor,
    show (k : ℚ) * b ^ e * den * b ^ (-e).toNat = k * (den * ((b : ℚ) ^ e * b ^ (-e).toNat)) by ring,
    zpow_mul_pow_toNat positive]
  exact_mod_cast Iff.rfl

namespace Double

section Half

variable {num den k : Nat}

theorem roundHalfEven_mul_right (num den : Nat) (positive : 0 < k) :
    roundHalfEven (num * k) (den * k) = roundHalfEven num den := by
  have twice (r : Nat) : 2 * (r * k) = 2 * r * k := (Nat.mul_assoc ..).symm
  simp only [roundHalfEven, Nat.mul_div_mul_right _ _ positive, Nat.mul_mod_mul_right, twice,
    Nat.mul_lt_mul_right positive]

theorem roundHalfEven_mul_self (n : Nat) (hd : 0 < den) : roundHalfEven (n * den) den = n := by
  simp [roundHalfEven, Nat.mul_div_cancel n hd, hd]

theorem le_roundHalfEven_iff (even : k % 2 = 0) (hd : 0 < den) :
    k ≤ roundHalfEven num den ↔ 2 * (k * den) ≤ 2 * num + den := by
  have rest := Nat.mod_lt num hd
  have parts : num / den * den + num % den = num := Nat.div_add_mod' num den
  simp only [roundHalfEven]
  generalize num / den = q at *
  generalize num % den = r at *
  -- only the number right above the quotient depends on the remainder, and it wins the tie
  obtain below | rfl | above : k ≤ q ∨ k = q + 1 ∨ q + 2 ≤ k := by omega
  · have := Nat.mul_le_mul_right den below
    split_ifs <;> omega
  · have : (q + 1) * den = q * den + den := Nat.succ_mul q den
    split_ifs <;> omega
  · have := Nat.mul_le_mul_right den above
    have := Nat.add_mul q 2 den
    split_ifs <;> omega

theorem roundHalfEven_le (hd : 0 < den) (bound : num ≤ k * den) : roundHalfEven num den ≤ k := by
  have parts : num / den * den + num % den = num := Nat.div_add_mod' num den
  have quotient : num / den ≤ k := Nat.div_le_of_le_mul (Nat.mul_comm den k ▸ bound)
  simp only [roundHalfEven]
  generalize num / den = q at *
  generalize num % den = r at *
  obtain below | rfl : q < k ∨ q = k := by omega
  · split_ifs <;> omega
  · have : r = 0 := by omega
    split_ifs <;> omega

end Half

section Quotient

variable {num den num' den' : Nat}

theorem log2_bounds (hn : 0 < num) (hd : 0 < den) :
    (2 : ℚ) ^ ((num.log2 : Int) - den.log2 - 1) ≤ num / den ∧
      (num : ℚ) / den < 2 ^ ((num.log2 : Int) - den.log2 + 1) := by
  have top : (0 : ℚ) < num := by exact_mod_cast hn
  have bottom : (0 : ℚ) < den := by exact_mod_cast hd
  have numLow : (2 : ℚ) ^ num.log2 ≤ num := by exact_mod_cast Nat.log2_self_le hn.ne'
  have denLow : (2 : ℚ) ^ den.log2 ≤ den := by exact_mod_cast Nat.log2_self_le hd.ne'
  have numHigh : (num : ℚ) < 2 ^ (num.log2 + 1) := by exact_mod_cast Nat.lt_log2_self (n := num)
  have denHigh : (den : ℚ) < 2 ^ (den.log2 + 1) := by exact_mod_cast Nat.lt_log2_self (n := den)
  have quotient (a b : Nat) : (2 : ℚ) ^ ((a : Int) - b) = 2 ^ a / 2 ^ b := by
    rw [zpow_sub₀ two_ne_zero, zpow_natCast, zpow_natCast]
  have lower := quotient num.log2 (den.log2 + 1)
  have upper := quotient (num.log2 + 1) den.log2
  rw [Nat.cast_succ, ← sub_sub] at lower
  rw [Nat.cast_succ, add_sub_right_comm] at upper
  rw [lower, upper]
  exact ⟨div_le_div₀ top.le numLow bottom denHigh.le,
    div_lt_div₀ numHigh denLow (by positivity) (by positivity)⟩

theorem le_floorLog2_iff (hn : 0 < num) (hd : 0 < den) (e : Int) :
    e ≤ floorLog2 num den ↔ (2 : ℚ) ^ e ≤ num / den := by
  obtain ⟨low, high⟩ := log2_bounds hn hd
  have reached := mul_zpow_le_div_iff (b := 2) (by decide) hd 1 num ((num.log2 : Int) - den.log2)
  simp only [Nat.cast_one, one_mul] at reached
  have monotone {a b : Int} (h : a ≤ b) : (2 : ℚ) ^ a ≤ 2 ^ b := zpow_le_zpow_right₀ one_le_two h
  obtain ⟨self, next⟩ : (2 : ℚ) ^ floorLog2 num den ≤ num / den ∧
      (num : ℚ) / den < 2 ^ (floorLog2 num den + 1) := by
    simp only [floorLog2]
    split
    · rename_i h
      exact ⟨by exact_mod_cast reached.mpr h, high⟩
    · rename_i h
      refine ⟨low, ?_⟩
      rw [sub_add_cancel]
      exact not_le.mp fun le => h (reached.mp (by exact_mod_cast le))
  constructor
  · intro le
    exact (monotone le).trans self
  · intro le
    by_contra above
    exact absurd (next.trans_le (monotone (by omega : floorLog2 num den + 1 ≤ e))) le.not_gt

theorem floorLog2_eq_of_div_eq (hn : 0 < num) (hd : 0 < den) (hn' : 0 < num') (hd' : 0 < den')
    (same : (num : ℚ) / den = num' / den') : floorLog2 num den = floorLog2 num' den' :=
  eq_of_forall_le_iff fun e => by rw [le_floorLog2_iff hn hd, le_floorLog2_iff hn' hd', same]

theorem ofRatio_mul_right (negative : Bool) {k : Nat} (positive : 0 < k) (hd : 0 < den) :
    ofRatio negative (num * k) (den * k) = ofRatio negative num den := by
  obtain rfl | hn := Nat.eq_zero_or_pos num
  · simp [ofRatio]
  have lead : floorLog2 (num * k) (den * k) = floorLog2 num den := by
    refine floorLog2_eq_of_div_eq (Nat.mul_pos hn positive) (Nat.mul_pos hd positive) hn hd ?_
    push_cast
    exact mul_div_mul_right _ _ (by exact_mod_cast positive.ne')
  have rounded (a b : Nat) :
      roundHalfEven (num * k * a) (den * k * b) = roundHalfEven (num * a) (den * b) := by
    rw [Nat.mul_right_comm num, Nat.mul_right_comm den, roundHalfEven_mul_right _ _ positive]
  simp only [ofRatio, lead, rounded, Nat.mul_eq_zero, hn.ne', positive.ne', or_self, if_false]

/-- Rounding looks at the value of a quotient only. -/
theorem ofRatio_congr (negative : Bool) (hd : 0 < den) (hd' : 0 < den')
    (same : num * den' = num' * den) : ofRatio negative num den = ofRatio negative num' den' :=
  calc ofRatio negative num den = ofRatio negative (num * den') (den * den') :=
        (ofRatio_mul_right negative hd' hd).symm
    _ = ofRatio negative (num' * den) (den' * den) := by rw [same, Nat.mul_comm den]
    _ = ofRatio negative num' den' := ofRatio_mul_right negative hd hd'

theorem add_le_floorLog2_iff (hn : 0 < num) (hd : 0 < den) (e : Int) (k : Nat) :
    e + k ≤ floorLog2 num den ↔ 2 ^ k * (den * 2 ^ e.toNat) ≤ num * 2 ^ (-e).toNat := by
  rw [le_floorLog2_iff hn hd, add_comm, zpow_add₀ two_ne_zero, zpow_natCast,
    ← mul_zpow_le_div_iff (b := 2) (by decide) hd]
  push_cast
  exact Iff.rfl

def unit (num den : Nat) : Int := max (floorLog2 num den - 52) (-1074)

def significand (num den : Nat) : Nat :=
  roundHalfEven (num * 2 ^ (-unit num den).toNat) (den * 2 ^ (unit num den).toNat)

theorem ofRatio_eq (negative : Bool) (hn : num ≠ 0) :
    ofRatio negative num den =
      if significand num den = 2 ^ 53 then ofParts negative (2 ^ 52) (unit num den + 1)
      else ofParts negative (significand num den) (unit num den) := if_neg hn

theorem significand_le (hn : 0 < num) (hd : 0 < den) : significand num den ≤ 2 ^ 53 := by
  have above : ¬ unit num den + 53 ≤ floorLog2 num den := by
    unfold unit
    omega
  rw [show unit num den + 53 = unit num den + (53 : Nat) from rfl, add_le_floorLog2_iff hn hd] at above
  exact roundHalfEven_le (by positivity) (not_le.mp above).le

theorem le_significand (hn : 0 < num) (hd : 0 < den) :
    unit num den = -1074 ∨ 2 ^ 52 ≤ significand num den := by
  by_cases least : unit num den = -1074
  · exact .inl least
  · have reached : unit num den + (52 : Nat) ≤ floorLog2 num den := by
      unfold unit at least ⊢
      omega
    rw [add_le_floorLog2_iff hn hd] at reached
    right
    rw [significand, le_roundHalfEven_iff (by decide) (by positivity)]
    omega

theorem ratio_den_pos (m : Nat) (q : Int) : 0 < (ratio m q).2 := Nat.two_pow_pos _

theorem unit_ratio {m : Nat} {q : Int} (positive : 0 < m) (h : Canonical m q) :
    unit (ratio m q).1 (ratio m q).2 = q := by
  obtain ⟨small, least, -, full⟩ := h
  have reach (k : Nat) : q + k ≤ floorLog2 (ratio m q).1 (ratio m q).2 ↔ 2 ^ k ≤ m := by
    have factor : 0 < 2 ^ q.toNat * 2 ^ (-q).toNat := by positivity
    have hn : 0 < (ratio m q).1 := Nat.mul_pos positive (Nat.two_pow_pos _)
    rw [add_le_floorLog2_iff hn (ratio_den_pos m q), ratio, Nat.mul_assoc m,
      Nat.mul_comm (2 ^ (-q).toNat), Nat.mul_le_mul_right_iff factor]
  have above := (reach 53).not.mpr (not_le.mpr small)
  unfold unit
  rcases full with rfl | full
  · omega
  · have := (reach 52).mpr full
    omega

theorem ofRatio_ratio (negative : Bool) {m : Nat} {q : Int} (h : Canonical m q) :
    ofRatio negative (ratio m q).1 (ratio m q).2 = .finite negative m q h := by
  obtain rfl | positive := Nat.eq_zero_or_pos m
  · obtain ⟨-, -, -, least⟩ := id h
    obtain rfl : q = -1074 := by omega
    rfl
  have rounded : significand (ratio m q).1 (ratio m q).2 = m := by
    rw [significand, unit_ratio positive h, ratio, Nat.mul_assoc, Nat.mul_comm (2 ^ q.toNat)]
    exact roundHalfEven_mul_self m (by positivity)
  have hn : (ratio m q).1 ≠ 0 := (Nat.mul_pos positive (Nat.two_pow_pos _)).ne'
  rw [ofRatio_eq negative hn, rounded, unit_ratio positive h, if_neg h.1.ne, ofParts, dif_pos h]

/-- The midpoint between the greatest finite number and the power of two above it, `2 ^ 1024`. -/
def overflow : Nat := (2 ^ 54 - 1) * 2 ^ 970

theorem exists_ofParts_eq_infinite_iff (negative : Bool) (m : Nat) (q : Int) :
    (∃ sign, ofParts negative m q = .infinite sign) ↔ ¬ Canonical m q := by
  unfold ofParts
  split <;> simp [*]

theorem overflow_pos : 0 < overflow := by
  unfold overflow
  positivity

theorem exists_ofRatio_eq_infinite_iff (negative : Bool) (hd : 0 < den) :
    (∃ sign, ofRatio negative num den = .infinite sign) ↔ overflow * den ≤ num := by
  obtain rfl | hn := Nat.eq_zero_or_pos num
  · have : 0 < overflow * den := Nat.mul_pos overflow_pos hd
    simp only [ofRatio, if_true, zero, reduceCtorEq, exists_false, false_iff]
    omega
  have most := significand_le hn hd
  have least := le_significand hn hd
  have carried : (∃ sign, ofRatio negative num den = .infinite sign) ↔
      971 < unit num den ∨ unit num den = 971 ∧ 2 ^ 53 ≤ significand num den := by
    have low : -1074 ≤ unit num den := le_max_right ..
    rw [ofRatio_eq negative hn.ne']
    split <;> rw [exists_ofParts_eq_infinite_iff, Canonical] <;> omega
  -- what remains are comparisons with multiples of half a unit of the last binade
  have double (k : Nat) : 2 ^ (k + 1) = 2 * 2 ^ k := Nat.pow_succ'
  have step := double 970
  have reach (k : Nat) : 971 + (k : Int) ≤ floorLog2 num den ↔ 2 ^ k * (den * (2 * 2 ^ 970)) ≤ num := by
    rw [add_le_floorLog2_iff hn hd, show (971 : Int).toNat = 970 + 1 from rfl, step,
      show (-971 : Int).toNat = 0 from rfl, Nat.pow_zero, Nat.mul_one]
  have top : unit num den = 971 → (2 ^ 53 ≤ significand num den ↔
      2 * (2 ^ 53 * (den * (2 * 2 ^ 970))) ≤ 2 * num + den * (2 * 2 ^ 970)) := by
    intro last
    have positive : 0 < den * (2 * 2 ^ 970) := by positivity
    rw [significand, last, show (971 : Int).toNat = 970 + 1 from rfl, step,
      show (-971 : Int).toNat = 0 from rfl, Nat.pow_zero, Nat.mul_one,
      le_roundHalfEven_iff (by decide) positive]
  have binade := reach 52
  have next := reach 53
  rw [carried, overflow, Nat.mul_assoc, Nat.mul_comm (2 ^ 970)]
  rw [Nat.mul_left_comm den] at binade next top
  unfold unit at top ⊢
  generalize den * 2 ^ 970 = half at *
  omega

end Quotient

theorem ofInt?_eq_none_iff (n : Int) : ofInt? n = none ↔ overflow ≤ n.natAbs := by
  have rounded := @exists_ofRatio_eq_infinite_iff n.natAbs 1 (n < 0) Nat.one_pos
  rw [Nat.mul_one] at rounded
  rw [← rounded, ofInt?]
  split <;> simp_all

end Double

end RecordPipeline
