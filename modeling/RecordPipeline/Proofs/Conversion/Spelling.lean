import RecordPipeline.Decimal
import RecordPipeline.Proofs.Conversion.Numerals
import RecordPipeline.Proofs.Json.Numeral
set_option autoImplicit false

namespace RecordPipeline

open Json (Shows WholePart exponentText fractionText signText)
open Literal (ExponentText MantissaText Written)
open Numeral (digits isRun isRun_iff)

theorem signText_signed (negative : Bool) : SignText negative (signText negative) := by
  cases negative with
  | false => exact .none
  | true => exact .minus

/-- A text that is, with a sign or without, a literal of the value that figures have. -/
def Spelled (f : Figures) (cs : List Char) : Prop :=
  ∀ negative, ∃ l, Written (signText negative ++ cs) l ∧
    l.nearest = Double.ofScientific negative f.coefficient f.exponent

namespace Spelled

variable {f : Figures} {cs ms ws fs es : List Char} {e : Int}

theorem of_parts (mantissa : MantissaText ms ws fs) (exponent : ExponentText es e)
    (value : ∀ negative, Literal.nearest { negative, whole := ws, fraction := fs, exponent := e } =
      Double.ofScientific negative f.coefficient f.exponent) : Spelled f (ms ++ es) :=
  fun negative => ⟨_, .mk (signText_signed negative) mantissa exponent, value negative⟩

theorem read? (h : Spelled f cs) (negative : Bool) : Double.read? (signText negative ++ cs) =
    some (Double.ofScientific negative f.coefficient f.exponent) := by
  obtain ⟨l, written, nearest⟩ := h negative
  simp only [Double.read?, Literal.read?_of_written written, nearest]

end Spelled

section Parts

theorem mantissaText_fractionText {ws fs : List Char} (run : isRun ws = true)
    (digits : ∀ c ∈ fs, c.isDigit = true) :
    MantissaText (ws ++ fractionText fs) ws fs := by
  cases fs with
  | nil =>
    rw [fractionText, List.append_nil]
    exact .whole run
  | cons c cs => exact .point run digits

theorem fractionText_eq (ds : List Char) : fractionText ds = if ds.isEmpty then [] else '.' :: ds := by
  cases ds <;> rfl

theorem exponentText_signed {mark : Char} (letter : mark = 'e' ∨ mark = 'E') {ds : List Char}
    (run : isRun ds = true)
    {e : Int} (size : Numeral.value ds = e.natAbs) :
    ExponentText (mark :: (if e < 0 then '-' else '+') :: ds) e := by
  by_cases negative : e < 0
  · have text := ExponentText.marked letter .minus run
    have value : (if true then -(Numeral.value ds : Int) else Numeral.value ds) = e := by
      rw [if_pos rfl, size]
      omega
    rw [value] at text
    rwa [if_pos negative]
  · have text := ExponentText.marked letter .plus run
    have value : (if false then -(Numeral.value ds : Int) else Numeral.value ds) = e := by
      simp only [Bool.false_eq_true, if_false, size]
      omega
    rw [value] at text
    rwa [if_neg negative]

theorem isRun_of_wholePart {ds : List Char} (h : WholePart ds) : isRun ds = true := by
  cases h with
  | zero => rfl
  | run lead digits => exact isRun_iff.mpr ⟨List.cons_ne_nil _ _, digits⟩

end Parts

theorem spelled_of_shows {f : Figures} {cs : List Char} (shows : Shows f cs) : Spelled f cs := by
  obtain ⟨whole, fraction, exponent, rfl, leads, digits, -, value⟩ := shows
  have power : ExponentText (exponentText exponent) (exponent.getD 0) := by
    cases exponent with
    | none => exact .none
    | some e =>
      refine exponentText_signed (.inl rfl) ?_ (Numeral.value_padded 2 e.natAbs)
      refine isRun_iff.mpr ⟨?_, fun _ => Numeral.isDigit_of_mem_padded⟩
      simp [Numeral.padded, Numeral.digits_ne_nil]
  rw [← List.append_assoc]
  exact .of_parts (mantissaText_fractionText (isRun_of_wholePart leads) digits) power value

theorem spelled_digits (n : Nat) : Spelled ⟨n, 0⟩ (digits n) := by
  have spelled : Spelled ⟨n, 0⟩ (digits n ++ []) := by
    refine .of_parts (.whole (Numeral.isRun_digits n)) .none fun negative => ?_
    exact Json.nearest_eq_ofScientific (k := 0) (by simp) (by simp)
  rwa [List.append_nil] at spelled

namespace Decimal

variable {c : Nat} {e : Int}

theorem spelled_scientific :
    Spelled ⟨c, e⟩ ((digits c).take 1 ++ fractionText ((digits c).drop 1) ++
      (if (digits c).length + e - 1 = 0 then []
       else 'E' :: (if (digits c).length + e - 1 < 0 then '-' else '+') ::
         digits ((digits c).length + e - 1).natAbs)) := by
  have length := List.length_pos_iff.mpr (Numeral.digits_ne_nil c)
  have first : isRun ((digits c).take 1) = true :=
    isRun_of_wholePart ((Json.wholePart_digits c).take Nat.one_pos)
  have others : ∀ d ∈ (digits c).drop 1, d.isDigit = true := fun d member =>
    Numeral.isDigit_of_mem_digits (List.mem_of_mem_drop member)
  have power (lead : Int) : ExponentText
      (if lead = 0 then [] else 'E' :: (if lead < 0 then '-' else '+') :: digits lead.natAbs) lead := by
    split
    · rename_i zero
      rw [zero]
      exact .none
    · exact exponentText_signed (.inr rfl) (Numeral.isRun_digits _) (Numeral.value_digits _)
  refine .of_parts (mantissaText_fractionText first others) (power _) fun negative => ?_
  refine Json.nearest_eq_ofScientific (k := 0) ?_ ?_
  · show Numeral.value (List.take 1 _ ++ List.drop 1 _) = _
    rw [List.take_append_drop, Numeral.value_digits, Nat.pow_zero, Nat.mul_one]
  · simp
    omega

theorem spelled_renderFinite (c : Nat) (e : Int) : Spelled ⟨c, e⟩ (renderFinite c e) := by
  simp only [renderFinite]
  split
  · rename_i whole
    rw [whole]
    exact spelled_digits c
  split
  · rename_i places
    simp only [Bool.and_eq_true, decide_eq_true_eq] at places
    split
    · rename_i within
      exact spelled_of_shows (Json.shows_between (by omega) (by omega) (by omega))
    · have small := @Json.shows_small c e (by omega)
      rw [Int.add_comm e] at small
      exact spelled_of_shows small
  · have scientific := @spelled_scientific c e
    rwa [fractionText_eq] at scientific

end Decimal

end RecordPipeline
