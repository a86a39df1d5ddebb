import RecordPipeline.Double.Text
import RecordPipeline.Proofs.Double.Round
import RecordPipeline.Proofs.Text.Numeral
set_option autoImplicit false

namespace RecordPipeline

namespace Double

theorem ofParts_true (m : Nat) (q : Int) : ofParts true m q = (ofParts false m q).neg := by
  unfold ofParts
  split <;> rfl

theorem ofRatio_true (num den : Nat) : ofRatio true num den = (ofRatio false num den).neg := by
  simp only [ofRatio]
  split
  · rfl
  · split <;> exact ofParts_true ..

theorem ofScientific_true (c : Nat) (e : Int) : ofScientific true c e = (ofScientific false c e).neg := by
  simp only [ofScientific]
  split
  · rfl
  · split
    · rfl
    · exact ofRatio_true ..

theorem ofScientific_eq_finite {c m : Nat} {e q : Int} {h : Canonical m q} (negative : Bool)
    (plain : ofScientific false c e = .finite false m q h) :
    ofScientific negative c e = .finite negative m q h := by
  cases negative with
  | false => exact plain
  | true => rw [ofScientific_true, plain, neg, Bool.not_false]

theorem ofScientific_mul_ten_pow (negative : Bool) (c k : Nat) (e : Int) :
    ofScientific negative (c * 10 ^ k) (e - k) = ofScientific negative c e := by
  obtain rfl | positive := Nat.eq_zero_or_pos c
  · simp [ofScientific]
  have length : ((Numeral.digits (c * 10 ^ k)).length : Int) + (e - k) = (Numeral.digits c).length + e := by
    rw [Numeral.digits_mul_ten_pow positive, List.length_append, List.length_replicate]
    omega
  have nonzero : c * 10 ^ k ≠ 0 := by positivity
  have rounded : ofRatio negative (c * 10 ^ k * 10 ^ (e - k).toNat) (10 ^ (-(e - k)).toNat) =
      ofRatio negative (c * 10 ^ e.toNat) (10 ^ (-e).toNat) := by
    refine ofRatio_congr negative (by positivity) (by positivity) ?_
    rw [Nat.mul_assoc, Nat.mul_assoc, Nat.mul_assoc, ← Nat.pow_add, ← Nat.pow_add, ← Nat.pow_add]
    congr 2
    omega
  simp only [ofScientific, length, nonzero, positive.ne', rounded]

end Double

namespace Figures

open Double

section

variable {m : Nat} {q : Int}

theorem lt_reach_exact (positive : 0 < m) (h : Canonical m q) :
    -324 < ((Numeral.digits (exact m q).coefficient).length : Int) + (exact m q).exponent := by
  obtain ⟨-, least, -, -⟩ := h
  simp only [exact]
  have some := List.length_pos_iff.mpr
    (Numeral.digits_ne_nil (m * 2 ^ q.toNat * 5 ^ (-q).toNat))
  by_contra low
  obtain ⟨k, places⟩ : ∃ k, (-q).toNat = 324 + k := ⟨(-q).toNat - 324, by omega⟩
  -- a coefficient of so few digits would be less than the fives that it holds
  have few : m * 2 ^ q.toNat * 5 ^ (-q).toNat < 10 ^ k :=
    (Numeral.length_digits_le_iff (by omega)).mp (by omega)
  have fives : 5 ^ (324 + k) < 2 ^ k * 5 ^ k :=
    calc 5 ^ (324 + k) ≤ m * 2 ^ q.toNat * 5 ^ (324 + k) := Nat.le_mul_of_pos_left _ (by positivity)
      _ < 10 ^ k := by rwa [← places]
      _ = 2 ^ k * 5 ^ k := Nat.mul_pow 2 5 k
  have gap : 2 ^ k * 5 ^ k ≤ 5 ^ (324 + k) :=
    calc 2 ^ k * 5 ^ k ≤ 2 ^ 750 * 5 ^ k := by gcongr <;> omega
      _ ≤ 5 ^ 324 * 5 ^ k := Nat.mul_le_mul_right _ (by decide +kernel)
      _ = 5 ^ (324 + k) := by rw [Nat.pow_add]
  omega

theorem reach_exact_le (h : Canonical m q) :
    ((Numeral.digits (exact m q).coefficient).length : Int) + (exact m q).exponent ≤ 309 := by
  obtain ⟨small, -, most, -⟩ := h
  have twos : 2 ^ q.toNat ≤ 2 ^ 971 := by
    gcongr <;> omega
  have bound : m * 2 ^ q.toNat < 10 ^ 309 :=
    calc m * 2 ^ q.toNat < 2 ^ 53 * 2 ^ 971 := Nat.mul_lt_mul_of_lt_of_le' small twos (by positivity)
      _ ≤ 10 ^ 309 := by decide +kernel
  have few : (exact m q).coefficient < 10 ^ (309 + (-q).toNat) :=
    calc m * 2 ^ q.toNat * 5 ^ (-q).toNat < 10 ^ 309 * 10 ^ (-q).toNat :=
          Nat.mul_lt_mul_of_lt_of_le bound (Nat.pow_le_pow_left (by decide) _) (by positivity)
      _ = 10 ^ (309 + (-q).toNat) := by rw [Nat.pow_add]
  have length := (Numeral.length_digits_le_iff (by omega)).mpr few
  simp only [exact] at length ⊢
  omega

theorem nearest_exact (positive : 0 < m) (h : Canonical m q) :
    (exact m q).nearest = .finite false m q h := by
  have low := lt_reach_exact positive h
  have high := reach_exact_le h
  have nonzero : (exact m q).coefficient ≠ 0 := by
    simp only [exact]
    positivity
  rw [← ofRatio_ratio false h, nearest, ofScientific, if_neg (by simp; omega), if_neg (by omega)]
  refine ofRatio_congr false (by positivity) (ratio_den_pos m q) ?_
  have whole : (min q 0).toNat = 0 := by omega
  have places : (-min q 0).toNat = (-q).toNat := by omega
  rw [exact, whole, places, ratio, Nat.pow_zero, Nat.mul_one, Nat.mul_assoc, ← Nat.mul_pow]

theorem nearest_shortest (positive : 0 < m) (h : Canonical m q) :
    (shortest m q).nearest = .finite false m q h := by
  have target : ofParts false m q = .finite false m q h := dif_pos h
  simp only [shortest, target]
  rcases found : List.findSome? _ (List.range 17) with _ | f
  · exact nearest_exact positive h
  · obtain ⟨k, -, tested⟩ := List.exists_of_findSome?_eq_some found
    simpa using List.find?_some tested

end

end Figures

theorem Double.nearest_figures {m : Nat} {q : Int} (h : Canonical m q) :
    (figures m q).nearest = .finite false m q h := by
  obtain rfl | positive := Nat.eq_zero_or_pos m
  · obtain ⟨-, -, -, least⟩ := id h
    obtain rfl : q = -1074 := by omega
    rfl
  · rw [figures, if_neg positive.ne', Figures.nearest_shortest positive h]

theorem Double.figures_exponent_of_coefficient {m : Nat} {q : Int} (h : Canonical m q)
    (zero : (figures m q).coefficient = 0) : (figures m q).exponent = 0 := by
  have nearest := nearest_figures h
  rw [Figures.nearest, zero] at nearest
  cases nearest
  rfl

end RecordPipeline
