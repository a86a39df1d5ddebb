import Mathlib.Tactic.Linarith
import RecordPipeline.Double.Literal
import RecordPipeline.Proofs.Double.Round
set_option autoImplicit false

/-!
Correct rounding. A magnitude is rounded to the number of the format that is nearest to it, a tie
going to the even significand, and to infinity from the midpoint above the greatest finite number
on. There is exactly one such number, and quotients and decimals are rounded to it.
-/

namespace RecordPipeline.Double

def magnitude (m : Nat) (q : Int) : ℚ := m * 2 ^ q

/-- No number of the format is nearer, and one that is as near gives way to an even significand. -/
structure Nearest (x : ℚ) (m : Nat) (q : Int) : Prop where
  le : ∀ m' q', Canonical m' q' → |magnitude m q - x| ≤ |magnitude m' q' - x|
  even : ∀ m' q', Canonical m' q' → |magnitude m' q' - x| = |magnitude m q - x| →
    magnitude m' q' = magnitude m q ∨ m % 2 = 0

/-- The number that a magnitude with a sign is rounded to. -/
inductive Rounds (negative : Bool) (x : ℚ) : Double → Prop
  | finite {m : Nat} {q : Int} (h : Canonical m q) (below : x < overflow) (nearest : Nearest x m q) :
    Rounds negative x (.finite negative m q h)
  | infinite (above : overflow ≤ x) : Rounds negative x (.infinite negative)

theorem magnitude_eq_ratio (m : Nat) (q : Int) :
    magnitude m q = ((ratio m q).1 : ℚ) / (ratio m q).2 := by
  have value := mul_zpow_eq_div (b := 2) (by decide) m q
  rw [Nat.cast_ofNat] at value
  exact value

theorem magnitude_one_le {m : Nat} {q : Int} (h : Canonical m q) (positive : 0 < m) :
    magnitude 1 (-1074) ≤ magnitude m q := by
  have one : (1 : ℚ) ≤ m := by exact_mod_cast positive
  have power : (2 : ℚ) ^ (-1074 : Int) ≤ 2 ^ q := zpow_le_zpow_right₀ one_le_two h.2.1
  unfold magnitude
  rw [Nat.cast_one]
  exact mul_le_mul one power (by positivity) (by positivity)

theorem Nearest.carry {x : ℚ} {q : Int} (h : Nearest x (2 ^ 53) q) : Nearest x (2 ^ 52) (q + 1) := by
  have same : magnitude (2 ^ 52) (q + 1) = magnitude (2 ^ 53) q := by
    unfold magnitude
    rw [zpow_add_one₀ two_ne_zero]
    push_cast
    ring
  constructor
  case le =>
    rw [same]
    exact h.le
  case even => exact fun _ _ _ _ => .inr (by decide)

section Half

variable {num den : Nat}

theorem roundHalfEven_near (hd : 0 < den) :
    |(roundHalfEven num den : ℚ) - num / den| ≤ 1 / 2 ∧
      (|(roundHalfEven num den : ℚ) - num / den| = 1 / 2 → roundHalfEven num den % 2 = 0) := by
  have bottom : (0 : ℚ) < den := by exact_mod_cast hd
  have parts : (num : ℚ) / den = (num / den : Nat) + ((num % den : Nat) : ℚ) / den := by
    have split : ((num / den * den + num % den : Nat) : ℚ) = num := by rw [Nat.div_add_mod']
    rw [← split, Nat.cast_add, Nat.cast_mul, add_div, mul_div_cancel_right₀ _ bottom.ne']
  have low : (0 : ℚ) ≤ ((num % den : Nat) : ℚ) / den := by positivity
  have half (r : Nat) : (r : ℚ) / den < 1 / 2 ↔ 2 * r < den := by
    rw [div_lt_div_iff₀ bottom two_pos, one_mul, mul_comm]
    exact_mod_cast Iff.rfl
  have half' (r : Nat) : 1 / 2 < (r : ℚ) / den ↔ den < 2 * r := by
    rw [div_lt_div_iff₀ two_pos bottom, one_mul, mul_comm _ (2 : ℚ)]
    exact_mod_cast Iff.rfl
  have high : ((num % den : Nat) : ℚ) / den < 1 := by
    rw [div_lt_one bottom]
    exact_mod_cast Nat.mod_lt num hd
  rw [parts]
  have below := half (num % den)
  have above := half' (num % den)
  simp only [roundHalfEven]
  generalize num / den = q at *
  generalize ((num % den : Nat) : ℚ) / den = f at *
  split_ifs with less more even
  · have := below.mpr less
    rw [abs_sub_comm, add_sub_cancel_left, abs_of_nonneg low]
    exact ⟨this.le, fun tie => absurd tie this.ne⟩
  · have := above.mpr more
    rw [Nat.cast_succ, add_sub_add_left_eq_sub, abs_of_pos (by linarith)]
    exact ⟨by linarith, fun tie => by linarith⟩
  · have tie : f = 1 / 2 := le_antisymm (not_lt.mp (above.not.mpr more)) (not_lt.mp (below.not.mpr less))
    rw [abs_sub_comm, add_sub_cancel_left, abs_of_nonneg low]
    exact ⟨tie.le, fun _ => even⟩
  · have tie : f = 1 / 2 := le_antisymm (not_lt.mp (above.not.mpr more)) (not_lt.mp (below.not.mpr less))
    rw [Nat.cast_succ, add_sub_add_left_eq_sub, tie, abs_of_pos (by norm_num)]
    exact ⟨by norm_num, fun _ => by omega⟩

theorem roundHalfEven_nearest (hd : 0 < den) (k : Nat) :
    |(roundHalfEven num den : ℚ) - num / den| ≤ |(k : ℚ) - num / den| ∧
      (|(k : ℚ) - num / den| = |(roundHalfEven num den : ℚ) - num / den| →
        k = roundHalfEven num den ∨ roundHalfEven num den % 2 = 0) := by
  obtain ⟨near, tie⟩ := @roundHalfEven_near num den hd
  generalize roundHalfEven num den = n at *
  obtain rfl | other := eq_or_ne k n
  · exact ⟨le_rfl, fun _ => .inl rfl⟩
  · have apart : (1 : ℚ) ≤ |(k : ℚ) - n| := by
      have : (1 : Int) ≤ |(k : Int) - n| := Int.one_le_abs (sub_ne_zero.mpr (by exact_mod_cast other))
      exact_mod_cast this
    have between : |(k : ℚ) - n| ≤ |(k : ℚ) - num / den| + |(n : ℚ) - num / den| := by
      rw [abs_sub_comm (n : ℚ)]
      exact abs_sub_le _ _ _
    exact ⟨by linarith, fun same => .inr (tie (by linarith))⟩

end Half

section Quotient

variable {num den : Nat}

def inUnits (num den : Nat) : ℚ := num / den / 2 ^ unit num den

theorem significand_nearest (hd : 0 < den) (k : Nat) :
    |(significand num den : ℚ) - inUnits num den| ≤ |(k : ℚ) - inUnits num den| ∧
      (|(k : ℚ) - inUnits num den| = |(significand num den : ℚ) - inUnits num den| →
        k = significand num den ∨ significand num den % 2 = 0) := by
  have power := zpow_mul_pow_toNat (b := 2) (by decide) (unit num den)
  rw [Nat.cast_ofNat] at power
  have factor : (2 : ℚ) ^ (-unit num den).toNat ≠ 0 := by positivity
  have scaled : ((num * 2 ^ (-unit num den).toNat : Nat) : ℚ) / (den * 2 ^ (unit num den).toNat : Nat) =
      inUnits num den := by
    push_cast
    rw [← power, ← mul_assoc, mul_div_mul_right _ _ factor, inUnits, div_div]
  rw [← scaled]
  exact roundHalfEven_nearest (by positivity) k

/-- A number with a smaller exponent than the one that a quotient is rounded at lies half a unit or
more below the least full significand, and the quotient does not lie below it. -/
theorem le_of_lt_unit (hn : 0 < num) (hd : 0 < den) {m : Nat} {q : Int} (h : Canonical m q)
    (lower : q < unit num den) :
    (m : ℚ) * 2 ^ (q - unit num den) ≤ 2 ^ 52 - 1 / 2 ∧ 2 ^ 52 ≤ inUnits num den := by
  obtain ⟨small, least, -, -⟩ := h
  constructor
  · have few : (m : ℚ) + 1 ≤ 2 ^ 53 := by exact_mod_cast small
    have half : (2 : ℚ) ^ (q - unit num den) ≤ 2⁻¹ := by
      rw [← zpow_neg_one]
      exact zpow_le_zpow_right₀ one_le_two (by omega)
    calc (m : ℚ) * 2 ^ (q - unit num den) ≤ m * 2⁻¹ := by gcongr
      _ ≤ 2 ^ 52 - 1 / 2 := by linarith
  · have reached : unit num den + (52 : Nat) ≤ floorLog2 num den := by
      unfold unit at lower ⊢
      omega
    rw [le_floorLog2_iff hn hd, add_comm, zpow_add₀ two_ne_zero, zpow_natCast] at reached
    rwa [inUnits, le_div_iff₀ (by positivity)]

/-- In units of the quotient, numbers of its exponent and of greater ones are whole, and numbers of
smaller ones are farther away than the least full significand. -/
theorem significand_nearest_canonical (hn : 0 < num) (hd : 0 < den) {m : Nat} {q : Int}
    (h : Canonical m q) :
    |(significand num den : ℚ) - inUnits num den| ≤ |(m : ℚ) * 2 ^ (q - unit num den) - inUnits num den| ∧
      (|(m : ℚ) * 2 ^ (q - unit num den) - inUnits num den| =
          |(significand num den : ℚ) - inUnits num den| →
        (m : ℚ) * 2 ^ (q - unit num den) = significand num den ∨ significand num den % 2 = 0) := by
  rcases lt_or_ge q (unit num den) with lower | upper
  · obtain ⟨under, above⟩ := le_of_lt_unit hn hd h lower
    have full := (@significand_nearest num den hd (2 ^ 52)).1
    rw [Nat.cast_pow, Nat.cast_ofNat, abs_of_nonpos (sub_nonpos.mpr above)] at full
    rw [abs_of_nonpos (by linarith : (m : ℚ) * 2 ^ (q - unit num den) - inUnits num den ≤ 0)]
    exact ⟨by linarith, fun tie => by linarith⟩
  · obtain ⟨e, rfl⟩ : ∃ e : Nat, q = unit num den + e := ⟨(q - unit num den).toNat, by omega⟩
    have multiple : (m : ℚ) * 2 ^ (unit num den + e - unit num den) = (m * 2 ^ e : Nat) := by
      rw [add_sub_cancel_left, zpow_natCast]
      push_cast
      rfl
    rw [multiple]
    obtain ⟨le, even⟩ := @significand_nearest num den hd (m * 2 ^ e)
    exact ⟨le, fun tie => (even tie).imp_left fun same => congrArg Nat.cast same⟩

theorem nearest_significand (hn : 0 < num) (hd : 0 < den) :
    Nearest (num / den) (significand num den) (unit num den) := by
  have positive : (0 : ℚ) < 2 ^ unit num den := by positivity
  have quotient : inUnits num den * 2 ^ unit num den = num / den := div_mul_cancel₀ _ positive.ne'
  have shifted (m : Nat) (q : Int) : (m : ℚ) * 2 ^ (q - unit num den) * 2 ^ unit num den = magnitude m q := by
    rw [mul_assoc, ← zpow_add₀ two_ne_zero, sub_add_cancel, magnitude]
  have scaled (y : ℚ) : |y * 2 ^ unit num den - num / den| = |y - inUnits num den| * 2 ^ unit num den := by
    rw [← quotient, ← sub_mul, abs_mul, abs_of_pos positive]
  have own : |magnitude (significand num den) (unit num den) - num / den| =
      |(significand num den : ℚ) - inUnits num den| * 2 ^ unit num den := scaled _
  constructor
  case le =>
    intro m q h
    rw [own, ← shifted m q, scaled]
    exact mul_le_mul_of_nonneg_right (significand_nearest_canonical hn hd h).1 positive.le
  case even =>
    intro m q h tie
    rw [own, ← shifted m q, scaled] at tie
    have same := (significand_nearest_canonical hn hd h).2 (mul_right_cancel₀ positive.ne' tie)
    rw [← shifted m q]
    exact same.imp_left fun same => by rw [same, magnitude]

theorem eq_of_ofParts_eq_infinite {negative sign : Bool} {m : Nat} {q : Int}
    (h : ofParts negative m q = .infinite sign) : sign = negative := by
  unfold ofParts at h
  split at h
  · cases h
  · cases h
    rfl

theorem rounds_ofParts {negative : Bool} {x : ℚ} {m : Nat} {q : Int} (below : x < overflow)
    (nearest : Nearest x m q) (bounded : ∀ sign, ofParts negative m q ≠ .infinite sign) :
    Rounds negative x (ofParts negative m q) := by
  have canonical : Canonical m q := by
    by_contra h
    obtain ⟨sign, infinite⟩ := (exists_ofParts_eq_infinite_iff negative m q).mpr h
    exact bounded sign infinite
  rw [ofParts, dif_pos canonical]
  exact .finite canonical below nearest

theorem rounds_zero (negative : Bool) {x : ℚ} (nonneg : 0 ≤ x) (tiny : 2 * x < magnitude 1 (-1074)) :
    Rounds negative x (zero negative) := by
  have least : magnitude 1 (-1074) ≤ 1 := by
    rw [magnitude, Nat.cast_one, one_mul]
    exact zpow_le_one_of_nonpos₀ one_le_two (by decide)
  have most : (1 : ℚ) ≤ overflow := by exact_mod_cast overflow_pos
  refine .finite (by decide) (by linarith) ⟨fun m q h => ?_, fun _ _ _ _ => .inr rfl⟩
  have here : magnitude 0 (-1074) = 0 := by simp [magnitude]
  rw [here, zero_sub, abs_neg, abs_of_nonneg nonneg]
  obtain rfl | positive := Nat.eq_zero_or_pos m
  · simp [magnitude, abs_of_nonneg nonneg]
  · have := magnitude_one_le h positive
    exact (by linarith : x ≤ magnitude m q - x).trans (le_abs_self _)

theorem rounds_ofRatio (negative : Bool) (hd : 0 < den) :
    Rounds negative (num / den) (ofRatio negative num den) := by
  have bottom : (0 : ℚ) < den := by exact_mod_cast hd
  have limit : (overflow : ℚ) ≤ num / den ↔ overflow * den ≤ num := by
    rw [le_div_iff₀ bottom]
    exact_mod_cast Iff.rfl
  obtain rfl | hn := Nat.eq_zero_or_pos num
  · rw [Nat.cast_zero, zero_div]
    exact rounds_zero negative le_rfl (by rw [mul_zero, magnitude]; positivity)
  have infinite := @exists_ofRatio_eq_infinite_iff num den negative hd
  rw [← limit] at infinite
  rw [ofRatio_eq negative hn.ne'] at infinite ⊢
  by_cases above : (overflow : ℚ) ≤ num / den
  · obtain ⟨sign, parts⟩ := infinite.mpr above
    obtain rfl : sign = negative := by
      split at parts <;> exact eq_of_ofParts_eq_infinite parts
    rw [parts]
    exact .infinite above
  · have nearest := nearest_significand hn hd
    have bounded := infinite.not.mpr above
    split_ifs at bounded ⊢ with full
    · rw [full] at nearest
      exact rounds_ofParts (not_le.mp above) nearest.carry fun sign h => bounded ⟨sign, h⟩
    · exact rounds_ofParts (not_le.mp above) nearest fun sign h => bounded ⟨sign, h⟩

end Quotient

section Decimal

variable {c : Nat} {e : Int}

theorem mul_ten_zpow_lt (c : Nat) (e : Int) : (c : ℚ) * 10 ^ e < 10 ^ ((Numeral.digits c).length + e) := by
  have positive : 0 < (Numeral.digits c).length := List.length_pos_iff.mpr Nat.toDigits_ne_nil
  have fits : (c : ℚ) < 10 ^ (Numeral.digits c).length := by
    exact_mod_cast (Numeral.length_digits_le_iff positive).mp le_rfl
  rw [zpow_add₀ (by norm_num), zpow_natCast]
  exact mul_lt_mul_of_pos_right fits (by positivity)

theorem ten_zpow_le_mul (positive : 0 < c) (e : Int) :
    (10 : ℚ) ^ ((Numeral.digits c).length - 1 + e) ≤ c * 10 ^ e := by
  obtain ⟨k, length⟩ : ∃ k, (Numeral.digits c).length = k + 1 :=
    Nat.exists_eq_add_one_of_ne_zero (List.length_pos_iff.mpr Nat.toDigits_ne_nil).ne'
  have reached : 10 ^ k ≤ c := by
    obtain rfl | some := Nat.eq_zero_or_pos k
    · exact positive
    · have long : ¬ (Numeral.digits c).length ≤ k := by omega
      exact not_lt.mp ((Numeral.length_digits_le_iff some).not.mp long)
  rw [length, Nat.cast_succ, add_sub_cancel_right, zpow_add₀ (by norm_num), zpow_natCast]
  gcongr
  exact_mod_cast reached

theorem rounds_ofScientific (negative : Bool) (c : Nat) (e : Int) :
    Rounds negative (c * 10 ^ e) (ofScientific negative c e) := by
  have grows {i j : Int} (h : i ≤ j) : (10 : ℚ) ^ i ≤ 10 ^ j := zpow_le_zpow_right₀ (by norm_num) h
  simp only [ofScientific, Bool.or_eq_true, decide_eq_true_eq]
  split_ifs with small great
  · refine rounds_zero negative (by positivity) ?_
    obtain rfl | low := small
    · rw [magnitude, Nat.cast_zero, zero_mul, mul_zero]
      positivity
    · have tiny : (2 : ℚ) * 10 ^ (-324 : Int) < magnitude 1 (-1074) := by
        have : 2 * 2 ^ 1074 < 10 ^ 324 := by decide +kernel
        rw [magnitude, Nat.cast_one, one_mul, zpow_neg, zpow_neg, zpow_ofNat, zpow_ofNat, ← div_eq_mul_inv,
          div_lt_iff₀ (by positivity), inv_mul_eq_div, lt_div_iff₀ (by positivity)]
        exact_mod_cast this
      have := mul_ten_zpow_lt c e
      have := grows low
      linarith
  · have positive : 0 < c := by omega
    have huge : (overflow : ℚ) ≤ 10 ^ (309 : Int) := by
      have : overflow ≤ 10 ^ 309 := by decide +kernel
      exact_mod_cast this
    refine .infinite (huge.trans ((grows ?_).trans (ten_zpow_le_mul positive e)))
    omega
  · have value := mul_zpow_eq_div (b := 10) (by decide) c e
    rw [Nat.cast_ofNat] at value
    rw [value]
    exact rounds_ofRatio negative (Nat.pow_pos (by decide))

end Decimal

section Unique

variable {negative : Bool} {x : ℚ} {m m' : Nat} {q q' : Int}

theorem eq_of_magnitude_eq (h : Canonical m q) (h' : Canonical m' q')
    (same : magnitude m q = magnitude m' q') : m = m' ∧ q = q' := by
  have bottom (m : Nat) (q : Int) : ((ratio m q).2 : ℚ) ≠ 0 := by exact_mod_cast (ratio_den_pos m q).ne'
  rw [magnitude_eq_ratio, magnitude_eq_ratio, div_eq_div_iff (bottom m q) (bottom m' q')] at same
  have rounded := ofRatio_congr false (ratio_den_pos m q) (ratio_den_pos m' q') (by exact_mod_cast same)
  rw [ofRatio_ratio false h, ofRatio_ratio false h'] at rounded
  cases rounded
  exact ⟨rfl, rfl⟩

theorem magnitude_succ_le (h : Canonical m q) (h' : Canonical m' q')
    (less : magnitude m q < magnitude m' q') : magnitude (m + 1) q ≤ magnitude m' q' := by
  have unit : (0 : ℚ) < 2 ^ q := by positivity
  rcases le_or_gt q q' with upper | lower
  · obtain ⟨k, rfl⟩ : ∃ k : Nat, q' = q + k := ⟨(q' - q).toNat, by omega⟩
    have multiple : magnitude m' (q + k) = (m' * 2 ^ k : Nat) * 2 ^ q := by
      rw [magnitude, zpow_add₀ two_ne_zero, zpow_natCast]
      push_cast
      ring
    rw [multiple, magnitude, mul_lt_mul_iff_of_pos_right unit] at less
    rw [multiple, magnitude, mul_le_mul_iff_of_pos_right unit]
    exact_mod_cast less
  · obtain ⟨-, -, -, full⟩ := h
    have full : 2 ^ 52 ≤ m := full.resolve_left (by have := h'.2.1; omega)
    have below : magnitude m' q' ≤ magnitude m q := by
      have half : (2 : ℚ) ^ q' ≤ 2 ^ q / 2 := by
        rw [div_eq_mul_inv, ← zpow_sub_one₀ two_ne_zero]
        exact zpow_le_zpow_right₀ one_le_two (by omega)
      have small : (m' : ℚ) ≤ 2 ^ 53 := by exact_mod_cast h'.1.le
      have large : (2 ^ 52 : ℚ) ≤ m := by exact_mod_cast full
      calc (m' : ℚ) * 2 ^ q' ≤ 2 ^ 53 * (2 ^ q / 2) := by gcongr
        _ = 2 ^ 52 * 2 ^ q := by ring
        _ ≤ m * 2 ^ q := by gcongr
    exact absurd less below.not_gt

/-- Of two nearest numbers both are even, and the one after the smaller is odd and between them. -/
theorem Nearest.not_lt (h : Canonical m q) (h' : Canonical m' q') (near : Nearest x m q)
    (near' : Nearest x m' q') : ¬ magnitude m q < magnitude m' q' := by
  intro less
  have tie : |magnitude m q - x| = |magnitude m' q' - x| := le_antisymm (near.le m' q' h') (near'.le m q h)
  have even : m % 2 = 0 := (near.even m' q' h' tie.symm).resolve_left less.ne'
  have even' : m' % 2 = 0 := (near'.even m q h tie).resolve_left less.ne
  have next : Canonical (m + 1) q := by
    obtain ⟨small, least, greatest, full⟩ := h
    exact ⟨by omega, least, greatest, full.imp_right fun full => by omega⟩
  have step : magnitude (m + 1) q = magnitude m q + 2 ^ q := by
    rw [magnitude, magnitude]
    push_cast
    ring
  have unit : (0 : ℚ) < 2 ^ q := by positivity
  have middle : magnitude m q - x = -(magnitude m' q' - x) :=
    (abs_eq_abs.mp tie).resolve_left fun same => less.ne (sub_left_injective same)
  obtain nearer | same := (magnitude_succ_le h h' less).lt_or_eq
  · have far := near.le (m + 1) q next
    rw [abs_of_neg (by linarith : magnitude m q - x < 0)] at far
    exact absurd far (not_le.mpr (abs_lt.mpr ⟨by linarith, by linarith⟩))
  · have odd := (eq_of_magnitude_eq next h' same).1
    omega

theorem Rounds.unique {d d' : Double} (h : Rounds negative x d) (h' : Rounds negative x d') : d = d' := by
  cases h with
  | infinite above =>
    cases h' with
    | infinite => rfl
    | finite _ below => exact absurd above below.not_ge
  | finite canonical below near =>
    cases h' with
    | infinite above => exact absurd above below.not_ge
    | finite canonical' _ near' =>
      have same := le_antisymm (not_lt.mp (near'.not_lt canonical' canonical near))
        (not_lt.mp (near.not_lt canonical canonical' near'))
      obtain ⟨rfl, rfl⟩ := eq_of_magnitude_eq canonical canonical' same
      rfl

/-- Of one magnitude with two signs, zeros apart, the same number is the nearest; zeros of both
signs are equal. -/
theorem Rounds.numEq {negative' : Bool} {d d' : Double} (h : Rounds negative x d) (h' : Rounds negative' x d')
    (below : x < overflow) (sign : x ≠ 0 → negative = negative') : d.numEq d' = true := by
  obtain rfl | nonzero := eq_or_ne x 0
  · have tiny : (2 : ℚ) * 0 < magnitude 1 (-1074) := by
      rw [mul_zero, magnitude]
      positivity
    obtain rfl := h.unique (rounds_zero negative le_rfl tiny)
    obtain rfl := h'.unique (rounds_zero negative' le_rfl tiny)
    rfl
  · obtain rfl := sign nonzero
    obtain rfl := h.unique h'
    cases h with
    | finite => simp [Double.numEq]
    | infinite above => exact absurd above below.not_ge

end Unique

theorem rounds_self (negative : Bool) {m : Nat} {q : Int} (h : Canonical m q) :
    Rounds negative (magnitude m q) (.finite negative m q h) := by
  have rounded := @rounds_ofRatio (ratio m q).1 _ negative (ratio_den_pos m q)
  rwa [ofRatio_ratio negative h, ← magnitude_eq_ratio] at rounded

theorem ofInt?_eq_some_iff {n : Int} {d : Double} :
    ofInt? n = some d ↔ Rounds (n < 0) |(n : ℚ)| d ∧ |(n : ℚ)| < overflow := by
  have size : ((n.natAbs : ℚ)) / (1 : Nat) = |(n : ℚ)| := by
    rw [Nat.cast_one, div_one, Nat.cast_natAbs, Int.cast_abs]
  have rounded := @rounds_ofRatio n.natAbs 1 (n < 0) Nat.one_pos
  rw [size] at rounded
  constructor
  · intro found
    unfold ofInt? at found
    split at found
    · cases found
    · rename_i finite
      cases found
      refine ⟨rounded, not_le.mp fun above => ?_⟩
      exact finite _ (rounded.unique (.infinite above))
  · rintro ⟨rounds, below⟩
    obtain rfl := rounds.unique rounded
    unfold ofInt?
    split
    · rename_i infinite
      rw [infinite] at rounded
      cases rounded with
      | infinite above => exact absurd above below.not_ge
    · rfl

end RecordPipeline.Double
