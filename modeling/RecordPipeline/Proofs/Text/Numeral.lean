import Mathlib.Data.List.TakeDrop
import RecordPipeline.Text.Numeral
import RecordPipeline.Value.Fault
set_option autoImplicit false

namespace RecordPipeline.Numeral

theorem isDigit_of_mem_digits {n : Nat} {c : Char} (h : c ∈ digits n) : c.isDigit = true :=
  Nat.isDigit_of_mem_toDigits (by decide) (by decide) h

theorem digits_ne_nil (n : Nat) : digits n ≠ [] := Nat.toDigits_ne_nil

theorem digits_inj {m n : Nat} : digits m = digits n ↔ m = n := by
  constructor
  · intro same
    simpa using congrArg value same
  · exact congrArg digits

theorem isRun_iff {ds : List Char} : isRun ds = true ↔ ds ≠ [] ∧ ∀ c ∈ ds, c.isDigit = true := by
  simp [isRun]

theorem span_isDigit {ds rest : List Char} (run : ∀ c ∈ ds, c.isDigit = true)
    (stop : ∀ c cs, rest = c :: cs → c.isDigit = false) : (ds ++ rest).span Char.isDigit = (ds, rest) := by
  rw [List.span_eq_takeWhile_dropWhile, List.takeWhile_append_of_pos run, List.dropWhile_append_of_pos run]
  cases rest with
  | nil => simp
  | cons c cs => simp [stop c cs rfl]

section Padded

variable {width n : Nat}

theorem isDigit_of_mem_padded {c : Char} (h : c ∈ padded width n) : c.isDigit = true := by
  rcases List.mem_append.mp h with zero | digit
  · rw [List.eq_of_mem_replicate zero]
    decide
  · exact isDigit_of_mem_digits digit

theorem length_padded (positive : 0 < width) (fits : n < 10 ^ width) : (padded width n).length = width := by
  have short := (length_digits_le_iff positive).mpr fits
  simp only [padded, List.length_append, List.length_replicate]
  omega

theorem padded_eq_digits (reaches : 10 ^ width ≤ n) : padded (width + 1) n = digits n := by
  have long : width < (digits n).length := by
    rcases Nat.eq_zero_or_pos width with rfl | positive
    · exact List.length_pos_iff.mpr (digits_ne_nil n)
    · have := mt (length_digits_le_iff positive).mp (Nat.not_lt.mpr reaches)
      omega
  have none : width + 1 - (digits n).length = 0 := by omega
  simp [padded, none]

end Padded

theorem ne_zero_of_digits_eq_cons {n : Nat} {c : Char} {cs : List Char} (positive : 0 < n)
    (h : digits n = c :: cs) : c ≠ '0' := by
  induction n using Nat.strongRecOn generalizing cs with
  | ind n ih =>
    by_cases few : n < 10
    · rw [digits, Nat.toDigits_of_lt_base few] at h
      cases h
      have all : ∀ n < 10, 0 < n → n.digitChar ≠ '0' := by decide
      exact all n few positive
    · rw [digits, Nat.toDigits_of_base_le (by decide) (by omega)] at h
      rcases front : Nat.toDigits 10 (n / 10) with _ | ⟨d, ds⟩
      · exact absurd front Nat.toDigits_ne_nil
      · rw [front, List.cons_append] at h
        cases h
        exact ih (n / 10) (by omega) (by omega) front

theorem value_append (xs ys : List Char) : value (xs ++ ys) = value xs * 10 ^ ys.length + value ys := by
  rw [value, Nat.ofDigitChars_append, Nat.ofDigitChars_eq_ofDigitChars_zero, Nat.mul_comm]
  rfl

theorem value_singleton (c : Char) : value [c] = c.toNat - 48 := by simp [value, Nat.ofDigitChars_cons]

theorem value_cons (c : Char) (cs : List Char) : value (c :: cs) = (c.toNat - 48) * 10 ^ cs.length + value cs := by
  rw [← List.singleton_append, value_append, value_singleton]

theorem value_lt {ds : List Char} (run : ∀ c ∈ ds, c.isDigit = true) : value ds < 10 ^ ds.length := by
  induction ds with
  | nil => decide
  | cons c cs ih =>
    obtain ⟨digit, others⟩ := List.forall_mem_cons.mp run
    have later := ih others
    have small : c.toNat - 48 ≤ 9 := Nat.sub_le_sub_right (Char.isDigit_iff_toNat.mp digit).2 48
    have scaled := Nat.mul_le_mul_right (10 ^ cs.length) small
    rw [value_cons, List.length_cons, Nat.pow_succ]
    omega

theorem value_zero_cons (ds : List Char) : value ('0' :: ds) = value ds := rfl

theorem value_replicate_zero (k : Nat) : value (List.replicate k '0') = 0 := by
  simp [value, Nat.ofDigitChars_replicate_zero]

theorem digits_value_singleton {c : Char} (digit : c.isDigit = true) : digits (value [c]) = [c] := by
  have bounds := Char.isDigit_iff_toNat.mp digit
  simp only [Char.reduceToNat] at bounds
  have few : c.toNat - 48 < 10 := by omega
  have rebuilt : (c.toNat - 48).digitChar = c := by
    rw [← Char.toNat_inj, Nat.toNat_digitChar_of_lt_ten few]
    omega
  rw [value_singleton, digits, Nat.toDigits_of_lt_base few, rebuilt]

theorem digits_append {n : Nat} (positive : 0 < n) {cs : List Char} (run : ∀ c ∈ cs, c.isDigit = true) :
    digits n ++ cs = digits (n * 10 ^ cs.length + value cs) := by
  induction cs generalizing n with
  | nil => simp [value]
  | cons c cs ih =>
    obtain ⟨digit, others⟩ := List.forall_mem_cons.mp run
    have small : value [c] < 10 := value_lt (List.forall_mem_singleton.mpr digit)
    have next : digits n ++ [c] = digits (10 * n + value [c]) := by
      have step := Nat.toDigits_append_toDigits (b := 10) (by decide) positive small
      rwa [← digits, ← digits, digits_value_singleton digit] at step
    have parts : value (c :: cs) = value [c] * 10 ^ cs.length + value cs := value_append [c] cs
    rw [List.append_cons, next, ih (by omega) others, parts, List.length_cons, Nat.pow_succ, Nat.add_mul,
      Nat.mul_assoc 10, Nat.mul_comm 10, Nat.mul_assoc n, Nat.add_assoc]

theorem digits_mul_ten_pow {n : Nat} (positive : 0 < n) (k : Nat) :
    digits (n * 10 ^ k) = digits n ++ List.replicate k '0' := by
  have zeros : ∀ c ∈ List.replicate k '0', c.isDigit = true := by simp
  simp [digits_append positive zeros, value_replicate_zero]

section LeadingZeros

/-- A run without the zeros at its front, save its last digit. -/
def withoutZeros : List Char → List Char
  | '0' :: c :: cs => withoutZeros (c :: cs)
  | cs => cs

variable {ds : List Char}

theorem length_withoutZeros_le (ds : List Char) : (withoutZeros ds).length ≤ ds.length := by
  fun_induction withoutZeros ds with
  | case1 c cs ih =>
    simp only [List.length_cons] at ih ⊢
    omega
  | case2 ds => exact Nat.le_refl _

theorem isRun_withoutZeros (run : isRun ds = true) : isRun (withoutZeros ds) = true := by
  fun_induction withoutZeros ds with
  | case1 c cs ih => exact ih (by simpa [isRun] using run)
  | case2 ds => exact run

theorem withoutZeros_eq_self_iff (ds : List Char) :
    withoutZeros ds = ds ↔ (2 ≤ ds.length → ds.head? ≠ some '0') := by
  fun_cases withoutZeros ds with
  | case1 c cs =>
    have shorter := length_withoutZeros_le (c :: cs)
    constructor
    · intro same
      have length := congrArg List.length same
      simp only [List.length_cons] at length shorter
      omega
    · simp
  | case2 ds plain =>
    refine iff_of_true rfl fun two zero => ?_
    rcases ds with _ | ⟨c, _ | ⟨d, ds⟩⟩
    · cases zero
    · simp at two
    · cases zero
      exact plain d ds rfl

theorem digits_value (run : isRun ds = true) : digits (value ds) = withoutZeros ds := by
  fun_induction withoutZeros ds with
  | case1 c cs ih => exact ih (by simpa [isRun] using run)
  | case2 ds plain =>
    obtain ⟨some, digit⟩ := isRun_iff.mp run
    rcases ds with _ | ⟨c, _ | ⟨d, ds⟩⟩
    · exact absurd rfl some
    · exact digits_value_singleton (digit c List.mem_cons_self)
    · obtain ⟨first, others⟩ := List.forall_mem_cons.mp digit
      have written := digits_value_singleton first
      have nonzero : value [c] ≠ 0 := by
        intro zero
        rw [zero] at written
        cases written
        exact plain d ds rfl
      have parts : value (c :: d :: ds) = value [c] * 10 ^ (d :: ds).length + value (d :: ds) :=
        value_append [c] (d :: ds)
      rw [parts, ← digits_append (Nat.pos_of_ne_zero nonzero) others, written, List.singleton_append]

end LeadingZeros

section Order

/-- Lists of which neither is in front of the other are one list. -/
theorem eq_iff_not_lt {α : Type} [LT α] [Std.Irrefl fun a b : α => a < b] [Std.Trichotomous fun a b : α => a < b]
    {xs ys : List α} : xs = ys ↔ ¬ xs < ys ∧ ¬ ys < xs := by
  constructor
  · rintro rfl
    exact ⟨List.lt_irrefl xs, List.lt_irrefl xs⟩
  · rintro ⟨less, greater⟩
    exact List.le_antisymm (List.not_lt.mp greater) (List.not_lt.mp less)

theorem mul_add_lt_iff {a a' b b' k : Nat} (small : b < k) (small' : b' < k) :
    a * k + b < a' * k + b' ↔ a < a' ∨ (a = a' ∧ b < b') := by
  rcases Nat.lt_trichotomy a a' with less | rfl | greater
  · have step := Nat.mul_le_mul_right k less
    rw [Nat.succ_mul] at step
    omega
  · omega
  · have step := Nat.mul_le_mul_right k greater
    rw [Nat.succ_mul] at step
    omega

variable {ds es : List Char}

theorem value_cons_lt_iff {c d : Char} (run : ∀ x ∈ c :: ds, x.isDigit = true)
    (run' : ∀ x ∈ d :: es, x.isDigit = true)
    (length : ds.length = es.length) : value (c :: ds) < value (d :: es) ↔
    c < d ∨ (c = d ∧ value ds < value es) := by
  obtain ⟨digit, others⟩ := List.forall_mem_cons.mp run
  obtain ⟨digit', others'⟩ := List.forall_mem_cons.mp run'
  have small := value_lt others
  have small' := value_lt others'
  have zero : '0'.toNat ≤ c.toNat ∧ '0'.toNat ≤ d.toNat :=
    ⟨(Char.isDigit_iff_toNat.mp digit).1, (Char.isDigit_iff_toNat.mp digit').1⟩
  have less : c < d ↔ c.toNat < d.toNat := Iff.rfl
  rw [← length] at small'
  rw [value_cons, value_cons, ← length, mul_add_lt_iff small small', less, ← Char.toNat_inj]
  simp only [Char.reduceToNat] at zero
  omega

/-- Runs of one length are ordered as their numbers, and what follows them counts where they are one
run. -/
theorem append_lt_append_iff (run : ∀ c ∈ ds, c.isDigit = true) (run' : ∀ c ∈ es, c.isDigit = true)
    (length : ds.length = es.length) {xs ys : List Char} :
    ds ++ xs < es ++ ys ↔ value ds < value es ∨ (ds = es ∧ xs < ys) := by
  induction ds generalizing es with
  | nil =>
    obtain rfl := List.length_eq_zero_iff.mp length.symm
    simp
  | cons c ds ih =>
    cases es with
    | nil => cases length
    | cons d es =>
      have length : ds.length = es.length := Nat.succ.inj length
      have others := ih (fun x member => run x (List.mem_cons_of_mem _ member))
        (fun x member => run' x (List.mem_cons_of_mem _ member)) length
      rw [List.cons_append, List.cons_append, List.cons_lt_cons_iff, others, value_cons_lt_iff run run' length,
        List.cons.injEq]
      tauto

theorem eq_of_value_eq (run : ∀ c ∈ ds, c.isDigit = true) (run' : ∀ c ∈ es, c.isDigit = true)
    (length : ds.length = es.length) (same : value ds = value es) : ds = es := by
  have less := @append_lt_append_iff _ _ run run' length [] []
  have greater := @append_lt_append_iff _ _ run' run length.symm [] []
  simp only [List.append_nil, same, Nat.lt_irrefl, List.lt_irrefl, and_false, or_false, iff_false] at less greater
  exact eq_iff_not_lt.mpr ⟨less, greater⟩

end Order

theorem readRun_of_le {ds : List Char} (h : ds.length ≤ digitLimit) : readRun ds = .ok (value ds) := by
  rw [readRun, if_neg (Nat.not_lt.mpr h)]

theorem readRun_of_lt {ds : List Char} (h : digitLimit < ds.length) :
    readRun ds = .error (.tooLongToRead ds.length) := by
  rw [readRun, if_pos h]

theorem tooLong_eq_false_iff {n : Int} : tooLong n = false ↔ (digits n.natAbs).length ≤ digitLimit := by
  rw [← Bool.not_eq_true, tooLong_iff, Nat.not_lt]

theorem readRun_digits {n : Nat} (short : tooLong n = false) : readRun (digits n) = .ok n := by
  have within : (digits n).length ≤ digitLimit := tooLong_eq_false_iff.mp short
  rw [readRun_of_le within, value_digits]

theorem write_eq_ok_iff {n : Int} {s : String} :
    write n = .ok s ↔ (digits n.natAbs).length ≤ digitLimit ∧ s = String.ofList (signed n) := by
  rw [← tooLong_eq_false_iff, write]
  cases tooLong n <;> simp [@eq_comm String s]

theorem write_natural {n : Nat} (short : (digits n).length ≤ digitLimit) :
    write n = .ok (String.ofList (digits n)) := by
  have unsigned : signed n = digits n := by simp [signed]
  exact write_eq_ok_iff.mpr ⟨short, by rw [unsigned]⟩

end RecordPipeline.Numeral
