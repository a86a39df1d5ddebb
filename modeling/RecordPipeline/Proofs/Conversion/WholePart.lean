import Mathlib.Data.Nat.Cast.Order.Field
import Mathlib.Tactic.Linarith
import RecordPipeline.Conversion.Converter
import RecordPipeline.Proofs.Double.Round
set_option autoImplicit false

/-!
Whole parts of numbers. Floats, whole numbers, fractions and decimals are cut toward zero, each at
the exact rational that it stands for, so numbers of one value have one whole part in whatever form
they come.
-/

namespace RecordPipeline

/-- A whole number that is a number without its fraction. -/
structure Truncates (x : ℚ) (n : Int) : Prop where
  le : |(n : ℚ)| ≤ |x|
  lt : |x| < |(n : ℚ)| + 1
  sign : n = 0 ∨ (0 < n ∧ 0 < x) ∨ (n < 0 ∧ x < 0)

def withSign (negative : Bool) (x : ℚ) : ℚ := if negative then -x else x

namespace Truncates

variable {x y : ℚ} {m n : Int}

theorem neg (h : Truncates x n) : Truncates (-x) (-n) where
  le := by simpa using h.le
  lt := by simpa using h.lt
  sign := by simpa [or_comm] using h.sign

theorem withSign (h : Truncates x n) (negative : Bool) :
    Truncates (withSign negative x) (if negative then -n else n) := by
  cases negative with
  | false => exact h
  | true => exact h.neg

theorem bounds (h : Truncates x n) :
    (0 ≤ x ∧ 0 ≤ n ∧ (n : ℚ) ≤ x ∧ x < n + 1) ∨ (x ≤ 0 ∧ n ≤ 0 ∧ x ≤ n ∧ (n : ℚ) - 1 < x) := by
  obtain ⟨le, lt, sign⟩ := h
  obtain rfl | ⟨above, positive⟩ | ⟨below, negative⟩ := sign
  · rw [Int.cast_zero, abs_zero, zero_add, abs_lt] at lt
    rcases le_total 0 x with nonneg | nonpos
    · exact .inl ⟨nonneg, le_rfl, by simpa using nonneg, by simpa using lt.2⟩
    · exact .inr ⟨nonpos, le_rfl, by simpa using nonpos, by simpa using lt.1⟩
  · have : (0 : ℚ) < n := by exact_mod_cast above
    rw [abs_of_pos this, abs_of_pos positive] at le lt
    exact .inl ⟨positive.le, above.le, le, lt⟩
  · have : (n : ℚ) < 0 := by exact_mod_cast below
    rw [abs_of_neg this, abs_of_neg negative] at le lt
    exact .inr ⟨negative.le, below.le, by linarith, by linarith⟩

theorem mono (h : Truncates x m) (h' : Truncates y n) (le : x ≤ y) : m ≤ n := by
  by_contra above
  have step : (n : ℚ) + 1 ≤ m := by exact_mod_cast not_le.mp above
  obtain ⟨-, -, low, -⟩ | ⟨-, nonpos, -, low⟩ := h.bounds <;>
    obtain ⟨-, nonneg, -, high⟩ | ⟨-, -, high, -⟩ := h'.bounds
  · linarith
  · linarith
  · omega
  · linarith

theorem unique (h : Truncates x m) (h' : Truncates x n) : m = n :=
  le_antisymm (h.mono h' le_rfl) (h'.mono h le_rfl)

end Truncates

theorem truncates_div (num : Nat) {den : Nat} (positive : 0 < den) :
    Truncates ((num : ℚ) / den) ((num / den : Nat) : Int) := by
  have bottom : (0 : ℚ) < den := by exact_mod_cast positive
  have nonneg : (0 : ℚ) ≤ (num : ℚ) / den := by positivity
  have low : ((num / den : Nat) : ℚ) ≤ num / den := Nat.cast_div_le
  have high : (num : ℚ) / den < ((num / den : Nat) : ℚ) + 1 := by
    rw [div_lt_iff₀ bottom]
    exact_mod_cast Nat.lt_mul_of_div_lt (Nat.lt_succ_self _) positive
  constructor
  case le => rwa [Int.cast_natCast, Nat.abs_cast, abs_of_nonneg nonneg]
  case lt => rwa [Int.cast_natCast, Nat.abs_cast, abs_of_nonneg nonneg]
  case sign =>
    obtain zero | some := Nat.eq_zero_or_pos (num / den)
    · exact .inl (by exact_mod_cast zero)
    · have : (0 : ℚ) < ((num / den : Nat) : ℚ) := by exact_mod_cast some
      exact .inr (.inl ⟨by exact_mod_cast some, this.trans_le low⟩)

theorem truncates_tdiv (num : Int) {den : Nat} (positive : 0 < den) :
    Truncates ((num : ℚ) / den) (num.tdiv den) := by
  obtain ⟨k, rfl | rfl⟩ := num.eq_nat_or_neg
  · rw [Int.cast_natCast]
    exact truncates_div k positive
  · rw [Int.cast_neg, Int.cast_natCast, neg_div, Int.neg_tdiv]
    exact (truncates_div k positive).neg

theorem Decimal.div_ten_pow_min (c k : Nat) :
    c / 10 ^ min k (Numeral.digits c).length = c / 10 ^ k := by
  obtain short | long := Nat.le_total k (Numeral.digits c).length
  · rw [min_eq_left short]
  · have positive : 0 < (Numeral.digits c).length := List.length_pos_iff.mpr Nat.toDigits_ne_nil
    have small : c < 10 ^ (Numeral.digits c).length := (Numeral.length_digits_le_iff positive).mp le_rfl
    have smaller : c < 10 ^ k := small.trans_le (Nat.pow_le_pow_right (by decide) long)
    rw [min_eq_right long, Nat.div_eq_of_lt small, Nat.div_eq_of_lt smaller]

theorem Decimal.truncate?_finite (negative : Bool) (c : Nat) (e : Int) :
    truncate? (.finite negative c e) =
      let n : Int := (c * 10 ^ e.toNat / 10 ^ (-e).toNat : Nat)
      some (if negative then -n else n) := by
  obtain rfl | positive := Nat.eq_zero_or_pos c
  · cases negative <;> simp [truncate?]
  · have cut : c * 10 ^ e.toNat / 10 ^ min (-e).toNat (Numeral.digits c).length =
        c * 10 ^ e.toNat / 10 ^ (-e).toNat := by
      obtain whole | places := Int.le_total 0 e
      · have none : (-e).toNat = 0 := by omega
        rw [none, Nat.zero_min]
      · have none : e.toNat = 0 := by omega
        rw [none, Nat.pow_zero, Nat.mul_one, div_ten_pow_min]
    cases c with
    | zero => cases positive
    | succ c => simp only [truncate?, cut]

namespace Value

def IsNumber : Value → Prop
  | .float _ | .int _ | .fraction _ | .decimal _ => True
  | _ => False

def IsSpecial : Value → Prop
  | .float (.infinite _) | .float .nan | .decimal (.infinite _) | .decimal (.nan _ _ _) => True
  | _ => False

/-- The rational number that a value stands for. -/
inductive Denotes : Value → ℚ → Prop
  | int (n : Int) : Denotes (.int n) n
  | fraction (r : Rat) : Denotes (.fraction r) r
  | float (negative : Bool) (m : Nat) (q : Int) (h : Double.Canonical m q) :
    Denotes (.float (.finite negative m q h)) (withSign negative (m * 2 ^ q))
  | decimal (negative : Bool) (c : Nat) (e : Int) :
    Denotes (.decimal (.finite negative c e)) (withSign negative (c * 10 ^ e))

theorem exists_denotes {v : Value} (number : v.IsNumber) (plain : ¬ v.IsSpecial) :
    ∃ x, v.Denotes x := by
  cases v with
  | int n => exact ⟨_, .int n⟩
  | fraction r => exact ⟨_, .fraction r⟩
  | float d =>
    cases d with
    | finite negative m q h => exact ⟨_, .float negative m q h⟩
    | infinite negative => exact absurd trivial plain
    | nan => exact absurd trivial plain
  | decimal d =>
    cases d with
    | finite negative c e => exact ⟨_, .decimal negative c e⟩
    | infinite negative => exact absurd trivial plain
    | nan negative signaling payload => exact absurd trivial plain
  | _ => exact number.elim

end Value

namespace Converter

open Value (Denotes IsNumber IsSpecial)

theorem exists_wholePart_of_denotes {v : Value} {x : ℚ} (denotes : v.Denotes x) :
    ∃ n, wholePart? v = some n ∧ Truncates x n := by
  cases denotes with
  | int n =>
    have whole := truncates_tdiv n Nat.one_pos
    exact ⟨n, rfl, by simpa using whole⟩
  | fraction =>
    have whole := truncates_tdiv x.num x.den_pos
    rw [Rat.num_div_den] at whole
    exact ⟨_, rfl, whole⟩
  | float negative m q h =>
    have whole := (truncates_div (Double.ratio m q).1 (Double.ratio_den_pos m q)).withSign negative
    have value := mul_zpow_eq_div (b := 2) (by decide) m q
    rw [Nat.cast_ofNat] at value
    rw [value]
    exact ⟨_, rfl, whole⟩
  | decimal negative c e =>
    have bottom : 0 < 10 ^ (-e).toNat := Nat.pow_pos (by decide)
    have whole := (truncates_div (c * 10 ^ e.toNat) bottom).withSign negative
    have value := mul_zpow_eq_div (b := 10) (by decide) c e
    rw [Nat.cast_ofNat] at value
    rw [value]
    exact ⟨_, Decimal.truncate?_finite negative c e, whole⟩

theorem convert_integer_of_wholePart {v : Value} {n : Int} (number : v.IsNumber)
    (whole : wholePart? v = some n) : convert .integer v = .ok (.int n) := by
  cases v with
  | int _ | fraction _ | float _ | decimal _ => simp [convert, SourceKind.of, toInteger, whole]
  | _ => exact number.elim

theorem exists_convert_of_denotes {v : Value} {x : ℚ} (denotes : v.Denotes x) :
    ∃ n, convert .integer v = .ok (.int n) ∧ Truncates x n := by
  obtain ⟨n, whole, cut⟩ := exists_wholePart_of_denotes denotes
  exact ⟨n, convert_integer_of_wholePart (by cases denotes <;> trivial) whole, cut⟩

theorem exists_numberFormat_of_isSpecial {v : Value} (special : v.IsSpecial) :
    ∃ shown, convert .integer v = .error (.refused (.numberFormat v .integer shown)) := by
  cases v with
  | float d =>
    cases d with
    | finite negative m q h => exact special.elim
    | infinite negative => exact ⟨_, rfl⟩
    | nan => exact ⟨_, rfl⟩
  | decimal d =>
    cases d with
    | finite negative c e => exact special.elim
    | infinite negative => exact ⟨_, rfl⟩
    | nan negative signaling payload => exact ⟨_, rfl⟩
  | _ => exact special.elim

/-- Infinities and NaNs are refused, and any other number is cut toward zero. The opposite of a
number has the opposite whole part, and a greater number has no smaller one. -/
theorem convert_integer_truncates {v : Value} (number : v.IsNumber) :
    ((∃ shown, convert .integer v = .error (.refused (.numberFormat v .integer shown))) ↔
        v.IsSpecial) ∧
      (¬ v.IsSpecial → ∃ x, v.Denotes x ∧ ∃ n, convert .integer v = .ok (.int n) ∧
        Truncates x n ∧ ∀ m, Truncates x m → m = n) ∧
      (∀ x w, v.Denotes x → w.Denotes (-x) → ∃ n,
        convert .integer v = .ok (.int n) ∧ convert .integer w = .ok (.int (-n))) ∧
      ∀ x w y, v.Denotes x → w.Denotes y → x ≤ y → ∃ m n,
        convert .integer v = .ok (.int m) ∧ convert .integer w = .ok (.int n) ∧ m ≤ n := by
  refine ⟨⟨?_, exists_numberFormat_of_isSpecial⟩, ?_, ?_, ?_⟩
  · rintro ⟨shown, refused⟩
    by_contra plain
    obtain ⟨x, denotes⟩ := Value.exists_denotes number plain
    obtain ⟨n, converted, -⟩ := exists_convert_of_denotes denotes
    cases refused.symm.trans converted
  · intro plain
    obtain ⟨x, denotes⟩ := Value.exists_denotes number plain
    obtain ⟨n, converted, cut⟩ := exists_convert_of_denotes denotes
    exact ⟨x, denotes, n, converted, cut, fun m other => other.unique cut⟩
  · intro x w denotes opposite
    obtain ⟨n, converted, cut⟩ := exists_convert_of_denotes denotes
    obtain ⟨n', converted', cut'⟩ := exists_convert_of_denotes opposite
    obtain rfl := cut'.unique cut.neg
    exact ⟨n, converted, converted'⟩
  · intro x w y denotes denotes' le
    obtain ⟨m, converted, cut⟩ := exists_convert_of_denotes denotes
    obtain ⟨n, converted', cut'⟩ := exists_convert_of_denotes denotes'
    exact ⟨m, n, converted, converted', cut.mono cut' le⟩

theorem convert_integer_truncates_negative :
    let v := Value.decimal (.finite true 19 (-1))
    v.IsNumber ∧ ¬ v.IsSpecial ∧ ∃ x, v.Denotes x ∧ convert .integer v = .ok (.int (-1)) ∧
      Truncates x (-1) ∧ ∀ m, Truncates x m → m = -1 := by
  intro v
  have number : v.IsNumber := trivial
  have plain : ¬ v.IsSpecial := id
  obtain ⟨-, cuts, -⟩ := convert_integer_truncates number
  obtain ⟨x, denotes, n, converted, cut, only⟩ := cuts plain
  have here : convert .integer v = .ok (.int (-1)) := rfl
  cases here.symm.trans converted
  exact ⟨number, plain, x, denotes, here, cut, only⟩

end Converter

end RecordPipeline
