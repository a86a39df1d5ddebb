import Mathlib.Data.List.Basic
import RecordPipeline.Processor.FieldMapping
set_option autoImplicit false

namespace RecordPipeline

namespace Numeral

theorem exists_write_eq_error_iff (n : Int) :
    (∃ fault, write n = .error fault) ↔ digitLimit < (digits n.natAbs).length := by
  rw [← tooLong_iff, write]
  split <;> simp_all

end Numeral

namespace Value

def HasLongPart : Value → Prop
  | .int n => Numeral.digitLimit < (Numeral.digits n.natAbs).length
  | .fraction r =>
    Numeral.digitLimit < (Numeral.digits r.num.natAbs).length ∨
      Numeral.digitLimit < (Numeral.digits r.den).length
  | _ => False

/-- Whether a value has exactly the type that a target names. A boolean is no whole number. -/
def HasType : Value → TargetType → Prop
  | .int _, .integer | .float _, .double | .bool _, .boolean | .text _, .string => True
  | _, _ => False

theorem exists_pair_eq_error_iff (before between after : String) (a b : Except ValueFault String) :
    (∃ fault, (do return before ++ (← a) ++ between ++ (← b) ++ after) = Except.error fault) ↔
      (∃ fault, a = .error fault) ∨ ∃ fault, b = .error fault := by
  cases a <;> cases b <;> simp [bind, Except.bind, pure, Except.pure]

theorem exists_shown_eq_error_iff {v : Value} (supported : SourceKind.of v ≠ .unsupported) :
    (∃ fault, v.shown = .error fault) ↔ v.HasLongPart := by
  cases v <;> simp only [SourceKind.of, ne_eq, not_true_eq_false, reduceCtorEq] at supported
  case int n => simpa [shown, HasLongPart] using Numeral.exists_write_eq_error_iff n
  case fraction r =>
    have both := exists_pair_eq_error_iff "Fraction(" ", " ")" (Numeral.write r.num)
      (Numeral.write r.den)
    rw [Numeral.exists_write_eq_error_iff, Numeral.exists_write_eq_error_iff] at both
    simpa [shown, HasLongPart] using both
  all_goals simp [shown, HasLongPart]

theorem exists_plain_eq_error_iff {v : Value} (supported : SourceKind.of v ≠ .unsupported) :
    (∃ fault, v.plain = .error fault) ↔ v.HasLongPart := by
  cases v <;> simp only [SourceKind.of, ne_eq, not_true_eq_false, reduceCtorEq] at supported
  case int n => simpa [plain, shown, HasLongPart] using Numeral.exists_write_eq_error_iff n
  case fraction r =>
    by_cases whole : r.den = 1
    · have short : ¬ Numeral.digitLimit < (Numeral.digits 1).length := by decide
      simpa [plain, fractionText, HasLongPart, whole, short] using
        Numeral.exists_write_eq_error_iff r.num
    · have both := exists_pair_eq_error_iff "" "/" "" (Numeral.write r.num) (Numeral.write r.den)
      rw [Numeral.exists_write_eq_error_iff, Numeral.exists_write_eq_error_iff] at both
      simpa [plain, fractionText, HasLongPart, whole] using both
  all_goals simp [plain, shown, HasLongPart]

end Value

namespace Converter

/-- The values on which a conversion ends in the fault of an operation it is made of. -/
def Leaks : TargetType → Value → Prop
  | .string, v => v.HasLongPart
  | .double, v => v.HasLongPart ∧ (wholePart? v).bind Double.ofInt? = none
  | .boolean, .decimal d => d.isSignaling = true
  | _, _ => False

theorem exists_numberFormatError_eq_value_iff {v : Value}
    (supported : SourceKind.of v ≠ .unsupported) (t : TargetType) :
    (∃ fault, numberFormatError v t = .value fault) ↔ v.HasLongPart := by
  rw [← Value.exists_shown_eq_error_iff supported, numberFormatError]
  cases v.shown <;> simp

theorem toInteger_ne_value {v : Value} (supported : SourceKind.of v ≠ .unsupported)
    (fault : ValueFault) : toInteger v ≠ .error (.value fault) := by
  intro h
  simp only [toInteger] at h
  split at h
  · cases h
  · rename_i absent
    have long := (exists_numberFormatError_eq_value_iff supported .integer).mp
      ⟨fault, Except.error.inj h⟩
    cases v <;> simp only [Value.HasLongPart] at long
    case int n => simp [wholePart?] at absent
    case fraction r => simp [wholePart?] at absent

theorem exists_toDouble_eq_value_iff {v : Value} (supported : SourceKind.of v ≠ .unsupported) :
    (∃ fault, toDouble v = .error (.value fault)) ↔ Leaks .double v := by
  have unshown := exists_numberFormatError_eq_value_iff supported .double
  constructor
  · rintro ⟨fault, h⟩
    simp only [toDouble] at h
    split at h
    · cases h
    · rename_i absent
      have long := unshown.mp ⟨fault, Except.error.inj h⟩
      cases v <;> simp only [Value.HasLongPart] at long
      case int n => exact ⟨long, absent⟩
      case fraction r => exact ⟨long, absent⟩
  · rintro ⟨long, absent⟩
    obtain ⟨fault, h⟩ := unshown.mpr long
    cases v <;> simp only [Value.HasLongPart] at long
    case int n => exact ⟨fault, by simp [toDouble, absent, h]⟩
    case fraction r => exact ⟨fault, by simp [toDouble, absent, h]⟩

theorem exists_convert_eq_value_iff (t : TargetType) (v : Value) :
    (∃ fault, convert t v = .error (.value fault)) ↔ Leaks t v := by
  unfold convert
  split
  case isTrue unsupported =>
    cases v <;> simp only [SourceKind.of, reduceCtorEq] at unsupported <;>
      cases t <;> simp [Leaks, Value.HasLongPart]
  case isFalse supported =>
    cases t with
    | integer => simpa [Leaks] using toInteger_ne_value supported
    | double => exact exists_toDouble_eq_value_iff supported
    | boolean =>
      cases v <;> simp only [toBoolean, Leaks]
      case decimal d => split <;> simp_all
      all_goals simp
    | string =>
      have plain := Value.exists_plain_eq_error_iff supported
      rw [Leaks, ← plain]
      cases v
      case bool b => simp [toText, Value.plain, Value.shown]
      all_goals
        simp only [toText]
        generalize Value.plain _ = text
        cases text <;> simp [Except.map, Except.mapError]

theorem hasType_of_convert {t : TargetType} {v w : Value} (h : convert t v = .ok w) :
    w.HasType t := by
  unfold convert at h
  split at h
  · cases h
  cases t with
  | integer =>
    simp only [toInteger] at h
    split at h <;> cases h
    trivial
  | double =>
    simp only [toDouble] at h
    split at h <;> cases h
    trivial
  | boolean =>
    simp only [toBoolean] at h
    split at h
    case h_1 => cases h; trivial
    case h_2 => split at h <;> cases h; trivial
    case h_3 => cases h; trivial
  | string =>
    simp only [toText] at h
    split at h
    case h_1 => cases h; trivial
    case h_2 =>
      generalize Value.plain v = text at h
      cases text <;> cases h
      trivial

/-- What is converted holds the type that was asked for. -/
theorem accepts_of_convert {t : TargetType} {v w : Value} (h : convert t v = .ok w) :
    (FieldMapping.fieldType t).accepts w = true := by
  have typed := hasType_of_convert h
  cases t <;> cases w <;> first | rfl | cases typed

end Converter

end RecordPipeline
