import RecordPipeline.Proofs.Conversion.WholePart
import RecordPipeline.Proofs.Double.Nearest
import RecordPipeline.Proofs.Value.Number
set_option autoImplicit false

namespace RecordPipeline

/-- A rational number or an infinity. -/
inductive Extended where
  | finite (x : ℚ)
  | infinite (negative : Bool)
  deriving DecidableEq

def Double.extended? : Double → Option Extended
  | .finite negative m q _ => some (.finite (withSign negative (magnitude m q)))
  | .infinite negative => some (.infinite negative)
  | .nan => none

def Decimal.extended? : Decimal → Option Extended
  | .finite negative c e => some (.finite (withSign negative (c * 10 ^ e)))
  | .infinite negative => some (.infinite negative)
  | .nan _ _ _ => none

namespace Exact

def value? : Exact → Option Extended
  | .finite q => some (.finite q.value)
  | .infinite negative => some (.infinite negative)
  | .nan _ => none

theorem value?_ofInt (n : Int) : (ofInt n).value? = some (.finite n) := by simp [ofInt, value?, Quantity.value]

theorem value?_ofDouble (d : Double) : (ofDouble d).value? = d.extended? := by
  cases d with
  | finite negative m q canonical =>
    have parts := Double.magnitude_eq_ratio m q
    cases negative <;> simp [ofDouble, value?, Double.extended?, withSign, Quantity.value, parts, neg_div]
  | infinite negative => rfl
  | nan => rfl

theorem value?_ofDecimal (d : Decimal) : (ofDecimal d).value? = d.extended? := by
  cases d with
  | finite negative c e => cases negative <;> simp [ofDecimal, value?, Decimal.extended?, withSign, Quantity.value]
  | infinite negative => rfl
  | nan negative signaling payload => rfl

variable {a b : Exact} {x y : Extended}

theorem same_iff (ha : a.Proper) (hb : b.Proper) (hx : a.value? = some x) (hy : b.value? = some y) :
    a.same b = true ↔ x = y := by
  cases a <;> cases b <;> cases hx <;> cases hy
  case finite.finite p q => rw [same, Quantity.same_iff_value_eq ha hb, Extended.finite.injEq]
  case infinite.infinite => simp [same]
  all_goals simp [same]

theorem isSignaling_of_value? (hx : a.value? = some x) : a.isSignaling = false := by
  cases a with
  | nan signaling => cases hx
  | _ => rfl

theorem equal_of_value? (ha : a.Proper) (hb : b.Proper) (hx : a.value? = some x) (hy : b.value? = some y) :
    a.equal b = .ok (decide (x = y)) := by
  rw [equal, isSignaling_of_value? hx, isSignaling_of_value? hy, Bool.eq_iff_iff.mpr
    ((same_iff ha hb hx hy).trans decide_eq_true_iff.symm)]
  rfl

end Exact

theorem withSign_eq_iff {s t : Bool} {x y : ℚ} (hx : 0 ≤ x) (hy : 0 ≤ y) :
    withSign s x = withSign t y ↔ x = y ∧ (s = t ∨ x = 0) := by
  cases s <;> cases t <;> simp only [withSign, if_true, if_false, reduceCtorEq, false_or, true_or, and_true,
    neg_inj, Bool.false_eq_true]
  all_goals
    constructor
    · intro same
      constructor <;> linarith
    · rintro ⟨rfl, rfl⟩
      simp

namespace Double

section Finite

variable {s t : Bool} {m n : Nat} {q r : Int}

theorem magnitude_eq_zero_iff : magnitude m q = 0 ↔ m = 0 := by
  have power : (2 : ℚ) ^ q ≠ 0 := zpow_ne_zero _ two_ne_zero
  simp [magnitude, power]

theorem numEq_finite_iff (h : Canonical m q) (h' : Canonical n r) :
    (finite s m q h).numEq (finite t n r h') = true ↔ (m = 0 ∧ n = 0) ∨ (s = t ∧ m = n ∧ q = r) := by
  unfold numEq
  split
  · rename_i zeros
    simp only [isZero, Bool.and_eq_true, decide_eq_true_eq] at zeros
    simp [zeros]
  · rename_i zeros
    simp only [isZero, Bool.and_eq_true, decide_eq_true_eq] at zeros
    simp [zeros]

end Finite

theorem numEq_iff {a b : Double} {x y : Extended} (hx : a.extended? = some x) (hy : b.extended? = some y) :
    a.numEq b = true ↔ x = y := by
  cases a <;> cases b <;> cases hx <;> cases hy
  case finite.finite s m q h t n r h' =>
    have same : withSign s (magnitude m q) = withSign t (magnitude n r) ↔
        magnitude m q = magnitude n r ∧ (s = t ∨ magnitude m q = 0) :=
      withSign_eq_iff (by unfold magnitude; positivity) (by unfold magnitude; positivity)
    rw [numEq_finite_iff, Extended.finite.injEq, same, magnitude_eq_zero_iff]
    constructor
    · rintro (⟨rfl, rfl⟩ | ⟨rfl, rfl, rfl⟩)
      · simp [magnitude]
      · simp
    · rintro ⟨size, sign⟩
      obtain ⟨rfl, rfl⟩ := eq_of_magnitude_eq h h' size
      exact sign.elim (fun sign => .inr ⟨sign, rfl, rfl⟩) fun zero => .inl ⟨zero, zero⟩
  case infinite.infinite => simp [numEq, isZero]
  all_goals simp [numEq, isZero]

end Double

namespace Value

/-- The real and the imaginary part of a number. No part of a number is a NaN. -/
def number? : Value → Option (Extended × Extended)
  | .bool b => some (.finite (if b then 1 else 0), .finite 0)
  | .int n => some (.finite n, .finite 0)
  | .fraction r => some (.finite r, .finite 0)
  | .float d => d.extended?.map (·, .finite 0)
  | .decimal d => d.extended?.map (·, .finite 0)
  | .complex re im => do return (← re.extended?, ← im.extended?)
  | _ => none

variable {a b v : Value} {x y : Extended × Extended}

theorem exists_parts_of_number? (h : v.number? = some x) :
    ∃ p, v.parts? = some p ∧ p.1.value? = some x.1 ∧ p.2.extended? = some x.2 := by
  have zero : (Double.zero false).extended? = some (.finite 0) := by
    simp [Double.zero, Double.extended?, withSign, Double.magnitude]
  cases v <;> simp only [number?, Option.some.injEq, reduceCtorEq] at h
  case bool b =>
    cases h
    exact ⟨_, rfl, by cases b <;> simp [Exact.value?_ofInt], zero⟩
  case int n =>
    cases h
    exact ⟨_, rfl, Exact.value?_ofInt n, zero⟩
  case float d =>
    obtain ⟨y, here, rfl⟩ := Option.map_eq_some_iff.mp h
    exact ⟨_, rfl, (Exact.value?_ofDouble d).trans here, zero⟩
  case decimal d =>
    obtain ⟨y, here, rfl⟩ := Option.map_eq_some_iff.mp h
    exact ⟨_, rfl, (Exact.value?_ofDecimal d).trans here, zero⟩
  case fraction r =>
    cases h
    exact ⟨_, rfl, by simp [Exact.value?, Quantity.value, Rat.num_div_den], zero⟩
  case complex re im =>
    obtain ⟨r, first, h⟩ := Option.bind_eq_some_iff.mp h
    obtain ⟨i, second, h⟩ := Option.bind_eq_some_iff.mp h
    cases h
    exact ⟨_, rfl, (Exact.value?_ofDouble re).trans first, second⟩

theorem equal_of_number? (ha : a.number? = some x) (hb : b.number? = some y) :
    equal a b = .ok (decide (x = y)) := by
  obtain ⟨p, hp, real, imaginary⟩ := exists_parts_of_number? ha
  obtain ⟨q, hq, real', imaginary'⟩ := exists_parts_of_number? hb
  have parts : equalParts p q = .ok (decide (x = y)) := by
    have compared := Exact.equal_of_value? (proper_of_parts? hp) (proper_of_parts? hq) real real'
    have first := Double.numEq_iff imaginary imaginary'
    rw [equalParts]
    split
    · rename_i same
      simp [compared, Prod.ext_iff, first.mp same]
    · rename_i other
      simp [Prod.ext_iff, mt first.mpr other]
  rw [equal.eq_def]
  split
  case h_3 m n =>
    cases ha
    cases hb
    simp
  case h_8 => simp only [hp, hq, parts]
  all_goals cases ha

end Value

end RecordPipeline
