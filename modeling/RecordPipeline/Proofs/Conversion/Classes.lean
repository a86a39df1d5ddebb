import RecordPipeline.Proofs.Conversion.Outcome
import RecordPipeline.Proofs.Double.Round
set_option autoImplicit false

namespace RecordPipeline

namespace Value

def IsScalar : Value → Prop
  | .text _ | .bool _ | .float _ | .decimal _ | .int _ | .fraction _ => True
  | _ => False

theorem isScalar_iff (v : Value) : v.IsScalar ↔ SourceKind.of v ≠ .unsupported := by
  cases v <;> simp [IsScalar, SourceKind.of]

end Value

namespace Converter

/-- Values on which a conversion raises a fault that is no refusal. A number that is too long to be
shown cannot be named in the refusal of a whole part beyond the range of floats. -/
def Escapes : TargetType → Value → Prop
  | .string, v => v.HasLongPart
  | .double, v => v.HasLongPart ∧ ∃ n, wholePart? v = some n ∧ Double.overflow ≤ n.natAbs
  | .boolean, v => ∃ negative payload, v = .decimal (.nan negative true payload)
  | .integer, _ => False

theorem exists_wholePart_of_hasLongPart {v : Value} (long : v.HasLongPart) :
    ∃ n, wholePart? v = some n := by
  cases v <;> simp only [Value.HasLongPart] at long
  case int n => exact ⟨n, rfl⟩
  case fraction r => exact ⟨_, rfl⟩

theorem leaks_iff_escapes (t : TargetType) (v : Value) : Leaks t v ↔ Escapes t v := by
  cases t with
  | integer => simp [Leaks, Escapes]
  | string => simp [Leaks, Escapes]
  | boolean =>
    cases v with
    | decimal d => cases d <;> simp [Leaks, Escapes, Decimal.isSignaling]
    | _ => simp [Leaks, Escapes]
  | double =>
    simp only [Leaks, Escapes]
    refine and_congr_right fun long => ?_
    obtain ⟨n, whole⟩ := exists_wholePart_of_hasLongPart long
    simp [whole, Double.ofInt?_eq_none_iff]

/-- The outcomes of a conversion, each with what it says of the value. -/
inductive Outcome (t : TargetType) (v : Value) : Except ConversionFault Value → Prop
  | converted {w : Value} (scalar : v.IsScalar) (typed : w.HasType t) : Outcome t v (.ok w)
  | unsupported (given : ¬ v.IsScalar) : Outcome t v (.error (.refused (.unsupported v t)))
  | numberFormat {text : String} (scalar : v.IsScalar) (numeric : t = .integer ∨ t = .double)
      (shown : v.shown = .ok text) : Outcome t v (.error (.refused (.numberFormat v t text)))
  | escaped {fault : ValueFault} (escapes : Escapes t v) : Outcome t v (.error (.value fault))

theorem shown_of_numberFormatError {t : TargetType} {v : Value} {e : ConversionError}
    (h : numberFormatError v t = .refused e) : ∃ text, v.shown = .ok text ∧ e = .numberFormat v t text := by
  unfold numberFormatError at h
  split at h
  · rename_i text shown
    cases h
    exact ⟨text, shown, rfl⟩
  · cases h

theorem eq_numberFormat_of_refused {t : TargetType} {v : Value} {e : ConversionError}
    (scalar : v.IsScalar) (h : convert t v = .error (.refused e)) :
    (t = .integer ∨ t = .double) ∧ ∃ text, v.shown = .ok text ∧ e = .numberFormat v t text := by
  unfold convert at h
  rw [if_neg (v.isScalar_iff.mp scalar)] at h
  cases t with
  | integer =>
    simp only [toInteger] at h
    split at h
    · cases h
    · exact ⟨.inl rfl, shown_of_numberFormatError (Except.error.inj h)⟩
  | double =>
    simp only [toDouble] at h
    split at h
    · cases h
    · exact ⟨.inr rfl, shown_of_numberFormatError (Except.error.inj h)⟩
  | boolean =>
    simp only [toBoolean] at h
    split at h
    · cases h
    · split at h <;> cases h
    · cases h
  | string =>
    simp only [toText] at h
    split at h
    · cases h
    · generalize v.plain = text at h
      cases text <;> cases h

theorem outcome_of_convert (t : TargetType) (v : Value) : Outcome t v (convert t v) := by
  by_cases scalar : v.IsScalar
  · rcases outcome : convert t v with (e | fault) | w
    · obtain ⟨numeric, text, shown, rfl⟩ := eq_numberFormat_of_refused scalar outcome
      exact .numberFormat scalar numeric shown
    · exact .escaped ((leaks_iff_escapes t v).mp ((exists_convert_eq_value_iff t v).mp ⟨fault, outcome⟩))
    · exact .converted scalar (hasType_of_convert outcome)
  · have kind : SourceKind.of v = .unsupported := not_not.mp (v.isScalar_iff.not.mp scalar)
    unfold convert
    rw [if_pos kind]
    exact .unsupported scalar

/-- A conversion has one of the outcomes above, refuses a type exactly when the value is no scalar,
and raises another fault exactly on the values named; each refusal holds the value and the target.
-/
theorem convert_outcome (t : TargetType) (v : Value) :
    Outcome t v (convert t v) ∧
      (convert t v = .error (.refused (.unsupported v t)) ↔ ¬ v.IsScalar) ∧
      ((∃ fault, convert t v = .error (.value fault)) ↔ Escapes t v) ∧
      ∀ e, convert t v = .error (.refused e) → e.given = v ∧ e.target? = some t := by
  have outcome := outcome_of_convert t v
  refine ⟨outcome, ⟨?_, ?_⟩, ?_, ?_⟩
  · intro refused scalar
    obtain ⟨-, text, -, other⟩ := eq_numberFormat_of_refused scalar refused
    cases other
  · intro given
    exact if_pos (not_not.mp (v.isScalar_iff.not.mp given))
  · rw [exists_convert_eq_value_iff, leaks_iff_escapes]
  · intro e refused
    rw [refused] at outcome
    cases outcome with
    | unsupported => exact ⟨rfl, rfl⟩
    | numberFormat => exact ⟨rfl, rfl⟩

end Converter

end RecordPipeline
