import RecordPipeline.Proofs.Conversion.Numerals
set_option autoImplicit false

namespace RecordPipeline

def Value.IsCut : Value → Prop
  | .int _ | .bool _ | .fraction _ | .decimal _ => True
  | _ => False

theorem IntegerText.exists_doubleText {cs : List Char} {n : Int} (text : IntegerText cs n) :
    ∃ negative d, DoubleText cs d ∧ Double.Rounds negative |(n : ℚ)| d ∧
      (|(n : ℚ)| ≠ 0 → negative = decide (n < 0)) := by
  cases text with
  | @mk negative sign ds signed run short =>
    let l : Literal := { negative, whole := ds, fraction := [], exponent := 0 }
    have written : l.Written (sign ++ (ds ++ [])) := .mk signed (.whole run) .none
    have size : l.magnitude = |(((if negative then -(Numeral.value ds : Int) else Numeral.value ds) : Int) : ℚ)| := by
      cases negative <;> simp [Literal.magnitude, Numeral.value, l]
    rw [List.append_nil] at written
    refine ⟨negative, l.nearest, .literal written l.rounds_nearest, size ▸ l.rounds_nearest, ?_⟩
    cases negative
    · simp
    · simpa using Nat.pos_of_ne_zero

namespace Converter

/-- The whole part of a number that is not a float. -/
def cutPart? : Value → Option Int
  | .bool b => some (if b then 1 else 0)
  | v => wholePart? v

section Cut

variable {v w : Value}

theorem convert_integer_eq_ok_iff (cut : v.IsCut) :
    convert .integer v = .ok w ↔ ∃ n, cutPart? v = some n ∧ w = .int n := by
  refine eq_ok_iff_of_found (numberFormatError v .integer) ?_ w
  cases v with
  | int _ | bool _ => rfl
  | fraction _ | decimal _ =>
    simp only [convert, SourceKind.of, reduceCtorEq, if_false, toInteger, cutPart?]
    generalize wholePart? _ = part
    cases part <;> rfl
  | _ => exact cut.elim

theorem convert_double_eq_ok_iff (cut : v.IsCut) :
    convert .double v = .ok w ↔ ∃ d, (cutPart? v).bind Double.ofInt? = some d ∧ w = .float d := by
  refine eq_ok_iff_of_found (numberFormatError v .double) ?_ w
  cases v with
  | bool b => cases b <;> rfl
  | int _ | fraction _ | decimal _ =>
    simp only [convert, SourceKind.of, reduceCtorEq, if_false, toDouble, cutPart?]
    generalize Option.bind _ _ = widened
    cases widened <;> rfl
  | _ => exact cut.elim

end Cut

theorem convert_double_int_eq_ok_iff {n : Int} {w : Value} :
    convert .double (.int n) = .ok w ↔ ∃ d, Double.ofInt? n = some d ∧ w = .float d := by
  have cut : (Value.int n).IsCut := trivial
  rw [convert_double_eq_ok_iff cut]
  simp [cutPart?, wholePart?]

theorem convert_double_eq_ok_iff_integer {v w : Value} (cut : v.IsCut) :
    convert .double v = .ok w ↔ ∃ k, convert .integer v = .ok k ∧ convert .double k = .ok w := by
  rw [convert_double_eq_ok_iff cut]
  constructor
  · rintro ⟨d, found, rfl⟩
    obtain ⟨n, whole, widened⟩ := Option.bind_eq_some_iff.mp found
    exact ⟨.int n, (convert_integer_eq_ok_iff cut).mpr ⟨n, whole, rfl⟩,
      convert_double_int_eq_ok_iff.mpr ⟨d, widened, rfl⟩⟩
  · rintro ⟨k, integer, double⟩
    obtain ⟨n, whole, rfl⟩ := (convert_integer_eq_ok_iff cut).mp integer
    obtain ⟨d, widened, rfl⟩ := convert_double_int_eq_ok_iff.mp double
    exact ⟨d, Option.bind_eq_some_iff.mpr ⟨n, whole, widened⟩, rfl⟩

theorem exists_convert_double_of_integer {s : String} {k : Value} (h : convert .integer (.text s) = .ok k) :
    ∃ d, convert .double (.text s) = .ok (.float d) ∧
      (∀ w, convert .double k = .ok w → ∃ d', w = .float d' ∧ d.numEq d' = true) ∧
      ((∃ negative, d = .infinite negative) ↔ ∀ w, convert .double k ≠ .ok w) := by
  obtain ⟨n, rfl, text⟩ := ((reads_integer s).returns k).mp h
  obtain ⟨negative, d, double, rounds, sign⟩ := text.exists_doubleText
  refine ⟨d, ((reads_double s).returns _).mpr ⟨d, rfl, double⟩, ?_, ?_⟩
  · intro w widened
    obtain ⟨d', found, rfl⟩ := convert_double_int_eq_ok_iff.mp widened
    obtain ⟨rounds', below⟩ := Double.ofInt?_eq_some_iff.mp found
    exact ⟨d', rfl, rounds.numEq rounds' below sign⟩
  · constructor
    · rintro ⟨negative', rfl⟩ w widened
      obtain ⟨d', found, -⟩ := convert_double_int_eq_ok_iff.mp widened
      obtain ⟨-, below⟩ := Double.ofInt?_eq_some_iff.mp found
      cases rounds with
      | infinite above => exact absurd above below.not_ge
    · intro none
      have absent : Double.ofInt? n = .none := by
        cases found : Double.ofInt? n with
        | none => rfl
        | some d' => exact absurd (convert_double_int_eq_ok_iff.mpr ⟨d', found, rfl⟩) (none _)
      have above : (Double.overflow : ℚ) ≤ |(n : ℚ)| := by
        rw [← Int.cast_abs, Int.abs_eq_natAbs]
        exact_mod_cast (Double.ofInt?_eq_none_iff n).mp absent
      exact ⟨negative, rounds.unique (.infinite above)⟩

/-- Whole numbers, booleans, fractions and decimals are made the floats that their whole parts are
made, which are the nearest ones. The float of a text that denotes a whole number equals the one
that the whole number is made, and where there is none it is infinite. -/
theorem convert_double_coheres :
    (∀ v : Value, v.IsCut → ∀ w, convert .double v = .ok w ↔
      ∃ k, convert .integer v = .ok k ∧ convert .double k = .ok w) ∧
    (∀ n d, convert .double (.int n) = .ok (.float d) ↔
      Double.Rounds (n < 0) |(n : ℚ)| d ∧ |(n : ℚ)| < Double.overflow) ∧
    ∀ s k, convert .integer (.text s) = .ok k → ∃ d, convert .double (.text s) = .ok (.float d) ∧
      (∀ w, convert .double k = .ok w → ∃ d', w = .float d' ∧ d.numEq d' = true) ∧
      ((∃ negative, d = .infinite negative) ↔ ∀ w, convert .double k ≠ .ok w) := by
  refine ⟨fun v cut w => convert_double_eq_ok_iff_integer cut, fun n d => ?_,
    fun s k => exists_convert_double_of_integer⟩
  rw [convert_double_int_eq_ok_iff, ← Double.ofInt?_eq_some_iff]
  simp

theorem convert_double_coheres_signed :
    let v := Value.decimal (.finite true 90071992547409937 (-1))
    let w := Value.float (.finite true (2 ^ 52) 1 (by decide))
    v.IsCut ∧ convert .double v = .ok w ∧ (∃ k, convert .integer v = .ok k ∧ convert .double k = .ok w) ∧
      convert .integer (.text " -0 ") = .ok (.int 0) ∧
      ∃ d, convert .double (.text " -0 ") = .ok (.float d) ∧ d.numEq (Double.zero false) = true := by
  intro v w
  obtain ⟨cuts, -, reads⟩ := convert_double_coheres
  have cut : v.IsCut := trivial
  have double : convert .double v = .ok w := rfl
  have integer : convert .integer (.text " -0 ") = .ok (.int 0) := rfl
  obtain ⟨d, text, equal, -⟩ := reads " -0 " (.int 0) integer
  obtain ⟨d', same, equals⟩ := equal (.float (Double.zero false)) rfl
  cases same
  exact ⟨cut, double, (cuts v cut w).mp double, integer, d, text, equals⟩

end Converter

end RecordPipeline
