import Mathlib.Tactic.LinearCombination
import Mathlib.Data.Rat.Cast.Lemmas
import RecordPipeline.Value.Equal
set_option autoImplicit false

namespace RecordPipeline

namespace Quantity

def value (q : Quantity) : ℚ := q.num / q.den * 10 ^ q.tens

theorem same_iff_value_eq {a b : Quantity} (ha : a.den ≠ 0) (hb : b.den ≠ 0) :
    a.same b = true ↔ a.value = b.value := by
  have apart : (10 : ℚ) ^ (a.tens - b.tens).toNat / 10 ^ (b.tens - a.tens).toNat =
      10 ^ a.tens / 10 ^ b.tens := by
    rw [← zpow_natCast, ← zpow_natCast, ← zpow_sub₀ (by norm_num), ← zpow_sub₀ (by norm_num)]
    congr 1
    omega
  have ha' : (a.den : ℚ) ≠ 0 := by exact_mod_cast ha
  have hb' : (b.den : ℚ) ≠ 0 := by exact_mod_cast hb
  have ten : (10 : ℚ) ^ b.tens ≠ 0 := zpow_ne_zero _ (by norm_num)
  have lift : (10 : ℚ) ^ (b.tens - a.tens).toNat ≠ 0 := pow_ne_zero _ (by norm_num)
  rw [div_eq_div_iff lift ten] at apart
  rw [same_iff, value, value, ← Int.cast_inj (α := ℚ)]
  push_cast
  rw [div_mul_eq_mul_div, div_mul_eq_mul_div, div_eq_div_iff ha' hb']
  constructor
  · intro h
    apply mul_right_cancel₀ lift
    linear_combination (10 : ℚ) ^ b.tens * h - (a.num : ℚ) * b.den * apart
  · intro h
    apply mul_right_cancel₀ ten
    linear_combination (10 : ℚ) ^ (b.tens - a.tens).toNat * h + (a.num : ℚ) * b.den * apart

end Quantity

namespace Exact

def Proper : Exact → Prop
  | .finite q => q.den ≠ 0
  | _ => True

theorem proper_ofDouble (d : Double) : (ofDouble d).Proper := by
  cases d with
  | finite negative m q => simp [ofDouble, Proper, Double.ratio]
  | infinite negative => trivial
  | nan => trivial

theorem proper_ofDecimal (d : Decimal) : (ofDecimal d).Proper := by
  cases d with
  | finite negative c e => exact Nat.one_ne_zero
  | infinite negative => trivial
  | nan negative signaling payload => trivial

theorem same_symm {a b : Exact} (ha : a.Proper) (hb : b.Proper) (h : a.same b = true) :
    b.same a = true := by
  cases a <;> cases b <;> simp only [same, reduceCtorEq, decide_eq_true_eq] at h ⊢
  case finite.finite p q =>
    have hpq := (Quantity.same_iff_value_eq ha hb).mp h
    exact (Quantity.same_iff_value_eq hb ha).mpr hpq.symm
  case infinite.infinite => exact h.symm

theorem same_trans {a b c : Exact} (ha : a.Proper) (hb : b.Proper) (hc : c.Proper)
    (hab : a.same b = true) (hbc : b.same c = true) : a.same c = true := by
  cases a <;> cases b <;> simp only [same, reduceCtorEq, decide_eq_true_eq] at hab <;>
    cases c <;> simp only [same, reduceCtorEq, decide_eq_true_eq] at hbc ⊢
  case finite.finite.finite p q r =>
    have hpq := (Quantity.same_iff_value_eq ha hb).mp hab
    have hqr := (Quantity.same_iff_value_eq hb hc).mp hbc
    exact (Quantity.same_iff_value_eq ha hc).mpr (hpq.trans hqr)
  case infinite.infinite.infinite => exact hab.trans hbc

/-- A signaling NaN is the same as nothing, so the fault of comparing it never hides an equality. -/
theorem equal_eq_true_iff (a b : Exact) : a.equal b = .ok true ↔ a.same b = true := by
  cases a <;> cases b <;> simp [equal, isSignaling, same]
  all_goals split <;> simp

end Exact

namespace Double

theorem numEq_symm {a b : Double} (h : a.numEq b = true) : b.numEq a = true := by
  simp only [numEq] at h ⊢
  grind

theorem numEq_trans {a b c : Double} (hab : a.numEq b = true) (hbc : b.numEq c = true) :
    a.numEq c = true := by
  simp only [numEq] at hab hbc ⊢
  grind

end Double

namespace Value

theorem proper_of_parts? {v : Value} {p : Exact × Double} (h : v.parts? = some p) : p.1.Proper := by
  cases v <;> simp only [parts?, Option.some.injEq, reduceCtorEq] at h <;> subst h
  case float d => exact Exact.proper_ofDouble d
  case decimal d => exact Exact.proper_ofDecimal d
  case fraction r => exact r.den_nz
  case complex re im => exact Exact.proper_ofDouble re
  all_goals exact Nat.one_ne_zero

theorem equalParts_eq_true_iff (p q : Exact × Double) :
    equalParts p q = .ok true ↔ p.2.numEq q.2 = true ∧ p.1.same q.1 = true := by
  simp only [equalParts]
  split <;> rename_i h <;> simp [h, Exact.equal_eq_true_iff]

def SameNumber (a b : Value) : Prop :=
  ∃ p q, a.parts? = some p ∧ b.parts? = some q ∧ p.2.numEq q.2 = true ∧ p.1.same q.1 = true

namespace SameNumber

theorem symm {a b : Value} (h : SameNumber a b) : SameNumber b a := by
  obtain ⟨p, q, hp, hq, im, re⟩ := h
  exact ⟨q, p, hq, hp, Double.numEq_symm im,
    Exact.same_symm (proper_of_parts? hp) (proper_of_parts? hq) re⟩

theorem trans {a b c : Value} (hab : SameNumber a b) (hbc : SameNumber b c) : SameNumber a c := by
  obtain ⟨p, q, hp, hq, im, re⟩ := hab
  obtain ⟨q', r, hq', hr, im', re'⟩ := hbc
  obtain rfl : q = q' := Option.some.inj (hq.symm.trans hq')
  exact ⟨p, r, hp, hr, Double.numEq_trans im im',
    Exact.same_trans (proper_of_parts? hp) (proper_of_parts? hq) (proper_of_parts? hr) re re'⟩

theorem equal {a b : Value} (h : SameNumber a b) : a.equal b = .ok true := by
  obtain ⟨p, q, hp, hq, im, re⟩ := h
  have both := (equalParts_eq_true_iff p q).mpr ⟨im, re⟩
  rw [equal.eq_def]
  split
  case h_3 m n =>
    cases hp
    cases hq
    simp [Exact.same, Exact.ofInt, Quantity.same, isTimesTen_iff] at re
    simp [re]
  case h_8 => simp only [hp, hq, both]
  all_goals simp [parts?] at hp

end SameNumber

end Value

end RecordPipeline
