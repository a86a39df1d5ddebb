import RecordPipeline.Proofs.Conversion.Spelling
import RecordPipeline.Proofs.Conversion.WholePart
import RecordPipeline.Proofs.Conversion.Widening
import RecordPipeline.Proofs.Outcome
set_option autoImplicit false

namespace RecordPipeline

open Json (fractionText signText)
open Numeral (digits isRun isRun_iff)

section Letters

variable {cs : List Char} {d : Double}

def Literal.marks : List Char := ['+', '-', '.', 'e', 'E']

def wordLetters : List Char := ['+', '-', 'N', 'a', 'I', 'n', 'f', 'i', 't', 'y']

theorem SignText.letter {negative : Bool} {sign : List Char} (signed : SignText negative sign) :
    ∀ c ∈ sign, c = '+' ∨ c = '-' := by
  cases signed <;> simp

theorem WordText.subset (text : WordText cs d) : cs ⊆ wordLetters := by
  cases text with
  | nan signed => cases signed <;> decide
  | infinity signed => cases signed <;> decide

namespace Literal

def IsLetter (c : Char) : Prop := c.isDigit = true ∨ c ∈ marks

instance : DecidablePred IsLetter := fun _ => inferInstanceAs (Decidable (_ ∨ _))

theorem isLetter_of_isRun {ds : List Char} (run : isRun ds = true) : ∀ c ∈ ds, IsLetter c :=
  fun c member => .inl ((isRun_iff.mp run).2 c member)

theorem MantissaText.letter {ms ws fs : List Char} (text : MantissaText ms ws fs) : ∀ c ∈ ms, IsLetter c := by
  have point : IsLetter '.' := .inr (by decide)
  cases text with
  | whole run => exact isLetter_of_isRun run
  | point run digits =>
    refine List.forall_mem_append.mpr ⟨isLetter_of_isRun run, List.forall_mem_cons.mpr ⟨point, ?_⟩⟩
    exact fun c member => .inl (digits c member)
  | fraction run => exact List.forall_mem_cons.mpr ⟨point, isLetter_of_isRun run⟩

theorem isLetter_of_sign {negative : Bool} {sign : List Char} (signed : SignText negative sign) :
    ∀ c ∈ sign, IsLetter c := by
  intro c member
  rcases signed.letter c member with rfl | rfl <;> exact .inr (by decide)

theorem ExponentText.letter {es : List Char} {e : Int} (text : ExponentText es e) : ∀ c ∈ es, IsLetter c := by
  cases text with
  | none => simp
  | marked letter signed run =>
    refine List.forall_mem_cons.mpr ⟨?_,
      List.forall_mem_append.mpr ⟨isLetter_of_sign signed, isLetter_of_isRun run⟩⟩
    rcases letter with rfl | rfl <;> exact .inr (by decide)

theorem Written.letter {l : Literal} (written : Written cs l) : ∀ c ∈ cs, IsLetter c := by
  cases written with
  | mk signed mantissa exponent =>
    exact List.forall_mem_append.mpr ⟨isLetter_of_sign signed,
      List.forall_mem_append.mpr ⟨mantissa.letter, exponent.letter⟩⟩

end Literal

theorem DoubleText.visible (text : DoubleText cs d) : ∀ c ∈ cs, Text.isBlank c = false := by
  intro c member
  cases text with
  | literal written =>
    have marks : Literal.marks.any Text.isBlank = false := rfl
    rcases written.letter c member with digit | mark
    · exact Text.isBlank_eq_false_of_isDigit digit
    · exact Bool.eq_false_of_not_eq_true (List.any_eq_false.mp marks c mark)
  | word text =>
    have letters : wordLetters.any Text.isBlank = false := rfl
    exact Bool.eq_false_of_not_eq_true (List.any_eq_false.mp letters c (text.subset member))

theorem not_doubleText_of_mem {a b : Char} (here : a ∈ cs ∧ Text.isBlank a = false) (strange : ¬ Literal.IsLetter a)
    (there : b ∈ cs ∧ Text.isBlank b = false) (strange' : b ∉ wordLetters) :
    ¬ DoubleText (Text.trimChars cs) d := by
  intro text
  cases text with
  | literal written => exact strange (written.letter a (Text.mem_trimChars here.1 here.2))
  | word text => exact strange' (text.subset (Text.mem_trimChars there.1 there.2))

end Letters

namespace Value

def IsNumeric (v : Value) : Prop := v.IsNumber ∨ ∃ b, v = .bool b

/-- Numbers that are written as decimal literals, or as one of the two words. -/
def IsNumeral : Value → Prop
  | .int _ | .float (.finite ..) | .decimal (.finite ..) | .decimal (.infinite _) => True
  | .fraction r => r.den = 1
  | .decimal (.nan _ signaling payload) => signaling = false ∧ payload = 0
  | _ => False

theorem IsNumeral.isNumber {v : Value} (numeral : v.IsNumeral) : v.IsNumber := by
  cases v with
  | int _ | fraction _ | float _ | decimal _ => trivial
  | _ => exact numeral.elim

def isNegative : Value → Bool
  | .int n => n < 0
  | .fraction r => r.num < 0
  | .float d => d.isNegative
  | .decimal (.finite negative _ _) => negative
  | _ => false

/-- The float that a number is, as far as there is one: the nearest to what it stands for, or the
special one of its own kind. -/
inductive RoundsTo : Value → Double → Prop
  | number {v : Value} {x : ℚ} {d : Double} (denotes : v.Denotes x) (rounds : Double.Rounds v.isNegative |x| d) :
    RoundsTo v d
  | infinite (negative : Bool) : RoundsTo (.decimal (.infinite negative)) (.infinite negative)
  | nan (negative : Bool) : RoundsTo (.decimal (.nan negative false 0)) .nan

theorem Denotes.unique {v : Value} {x y : ℚ} (h : v.Denotes x) (h' : v.Denotes y) : x = y := by
  cases h <;> cases h' <;> rfl

theorem RoundsTo.unique {v : Value} {d d' : Double} (h : v.RoundsTo d) (h' : v.RoundsTo d') : d = d' := by
  cases h with
  | number denotes rounds =>
    cases h' with
    | number denotes' rounds' =>
      obtain rfl := denotes.unique denotes'
      exact rounds.unique rounds'
    | infinite => cases denotes
    | nan => cases denotes
  | infinite =>
    cases h' with
    | number denotes => cases denotes
    | infinite => rfl
  | nan =>
    cases h' with
    | number denotes => cases denotes
    | nan => rfl

end Value

theorem abs_withSign (negative : Bool) {x : ℚ} (nonneg : 0 ≤ x) : |withSign negative x| = x := by
  cases negative <;> simp [withSign, abs_of_nonneg nonneg]

section Written

variable {s : String}

theorem Spelled.doubleText {f : Figures} {cs : List Char} (h : Spelled f cs) (negative : Bool) :
    ∃ d, DoubleText (signText negative ++ cs) d ∧ Double.Rounds negative (f.coefficient * 10 ^ f.exponent) d :=
  ⟨_, Double.read?_eq_some_iff.mp (h.read? negative), Double.rounds_ofScientific negative _ _⟩

theorem exists_doubleText_of_write {n : Int} (written : Numeral.write n = .ok s) :
    ∃ d, DoubleText s.toList d ∧ Double.Rounds (n < 0) |(n : ℚ)| d := by
  obtain ⟨-, rfl⟩ := Numeral.write_eq_ok_iff.mp written
  obtain ⟨d, text, rounds⟩ := (spelled_digits n.natAbs).doubleText (n < 0)
  have size : (n.natAbs : ℚ) * 10 ^ (0 : Int) = |(n : ℚ)| := by
    rw [zpow_zero, mul_one, Nat.cast_natAbs, Int.cast_abs]
  rw [size] at rounds
  rw [String.toList_ofList, Json.signed_eq]
  exact ⟨d, text, rounds⟩

theorem doubleText_float (negative : Bool) {m : Nat} {q : Int} (h : Double.Canonical m q) :
    DoubleText (Double.finite negative m q h).text.toList (.finite negative m q h) := by
  have spelled := spelled_of_shows (Json.shows_render (Double.figures_exponent_of_coefficient h))
  have read := spelled.read? negative
  rw [Double.ofScientific_eq_finite negative (Double.nearest_figures h)] at read
  rw [Double.text, String.toList_ofList]
  exact Double.read?_eq_some_iff.mp read

theorem integerText_signed {n : Int} (short : (digits n.natAbs).length ≤ Numeral.digitLimit) :
    IntegerText (Numeral.signed n) n := by
  have text := IntegerText.mk (signText_signed (n < 0)) (Numeral.isRun_digits n.natAbs) short
  have value : (if decide (n < 0) then -(Numeral.value (digits n.natAbs) : Int)
      else Numeral.value (digits n.natAbs)) =
      n := by
    rw [Numeral.value_digits]
    by_cases negative : n < 0
    · rw [if_pos (decide_eq_true negative)]
      omega
    · rw [if_neg (by simpa using negative)]
      omega
  rwa [value, ← Json.signed_eq] at text

theorem exists_doubleText_of_isNumeral {v : Value} (numeral : v.IsNumeral) (plain : v.plain = .ok s) :
    ∃ d, DoubleText s.toList d ∧ v.RoundsTo d ∧ ∀ d', v = .float d' → d = d' := by
  cases v with
  | int n =>
    obtain ⟨d, text, rounds⟩ := exists_doubleText_of_write plain
    exact ⟨d, text, .number (.int n) rounds, by simp⟩
  | fraction r =>
    have whole : r.den = 1 := numeral
    rw [Value.plain, Value.fractionText, if_pos whole] at plain
    obtain ⟨d, text, rounds⟩ := exists_doubleText_of_write plain
    rw [Rat.coe_int_num_of_den_eq_one whole] at rounds
    exact ⟨d, text, .number (.fraction r) rounds, by simp⟩
  | float d =>
    cases d with
    | finite negative m q h =>
      cases plain
      refine ⟨_, doubleText_float negative h, .number (.float negative m q h) ?_, fun d' same => ?_⟩
      · rw [abs_withSign negative (by positivity)]
        exact Double.rounds_self negative h
      · cases same
        rfl
    | infinite negative => exact numeral.elim
    | nan => exact numeral.elim
  | decimal d =>
    cases plain
    rw [Decimal.text, String.toList_ofList]
    cases d with
    | finite negative c e =>
      obtain ⟨d, text, rounds⟩ := (Decimal.spelled_renderFinite c e).doubleText negative
      refine ⟨d, text, .number (.decimal negative c e) ?_, by simp⟩
      rwa [abs_withSign negative (by positivity)]
    | infinite negative =>
      exact ⟨_, .word (.infinity (signText_signed negative)), .infinite negative, by simp⟩
    | nan negative signaling payload =>
      obtain ⟨rfl, rfl⟩ := numeral
      refine ⟨_, ?_, .nan negative, by simp⟩
      have text := WordText.nan (signText_signed negative)
      simpa [Decimal.render, signText] using DoubleText.word text
  | _ => exact numeral.elim

theorem Decimal.not_doubleText_of_nan {negative signaling : Bool} {payload : Nat}
    (no : ¬ (signaling = false ∧ payload = 0)) (d : Double) :
    ¬ DoubleText (Text.trimChars (render (.nan negative signaling payload))) d := by
  cases signaling with
  | true =>
    have mark : 's' ∈ render (.nan negative true payload) := by simp [render]
    exact not_doubleText_of_mem ⟨mark, by decide⟩ (by decide) ⟨mark, by decide⟩ (by decide)
  | false =>
    have some : payload ≠ 0 := fun none => no ⟨rfl, none⟩
    have letter : 'N' ∈ render (.nan negative false payload) := by simp [render]
    obtain ⟨c, member⟩ := List.exists_mem_of_ne_nil _ (Numeral.digits_ne_nil payload)
    have digit := Numeral.isDigit_of_mem_digits member
    have behind : c ∈ render (.nan negative false payload) := by simp [render, some, member]
    have words : wordLetters.any Char.isDigit = false := rfl
    refine not_doubleText_of_mem ⟨letter, by decide⟩ (by decide) ⟨behind, Text.isBlank_eq_false_of_isDigit digit⟩ ?_
    exact fun other => List.any_eq_false.mp words c other digit

theorem not_doubleText_of_plain {v : Value} (number : v.IsNumber) (no : ¬ v.IsNumeral) (plain : v.plain = .ok s)
    (d : Double) : ¬ DoubleText (Text.trimChars s.toList) d := by
  have unread {cs : List Char} (none : Double.read? (Text.trimChars cs) = .none) :
      ¬ DoubleText (Text.trimChars cs) d := by
    rw [← Double.read?_eq_some_iff, none]
    exact nofun
  cases v with
  | fraction r =>
    have parts : r.den ≠ 1 := no
    rw [Value.plain, Value.fractionText, if_neg parts] at plain
    obtain ⟨num, -, plain⟩ := exists_of_bind_eq_ok plain
    obtain ⟨den, -, plain⟩ := exists_of_bind_eq_ok plain
    cases plain
    have slash : '/' ∈ (num ++ "/" ++ den).toList := by simp
    exact not_doubleText_of_mem ⟨slash, by decide⟩ (by decide) ⟨slash, by decide⟩ (by decide)
  | float d =>
    cases d with
    | finite => exact absurd trivial no
    | infinite negative =>
      cases plain
      cases negative <;> exact unread rfl
    | nan =>
      cases plain
      exact unread rfl
  | decimal d =>
    cases plain
    rw [Decimal.text, String.toList_ofList]
    cases d with
    | finite => exact absurd trivial no
    | infinite => exact absurd trivial no
    | nan => exact Decimal.not_doubleText_of_nan no d
  | int => exact absurd trivial no
  | _ => exact number.elim

end Written

namespace Converter

variable {v : Value} {s : String}

theorem plain_of_convert (number : v.IsNumber) (written : convert .string v = .ok (.text s)) : v.plain = .ok s := by
  have converted : convert .string v = (v.plain.map .text).mapError .value := by
    cases v with
    | int _ | fraction _ | float _ | decimal _ => rfl
    | _ => exact number.elim
  rw [converted] at written
  have mapped := eq_ok_of_mapError_eq_ok written
  cases plain : v.plain with
  | error fault =>
    rw [plain] at mapped
    cases mapped
  | ok t =>
    rw [plain] at mapped
    cases mapped
    rfl

theorem exists_convert_double_of_isNumeral (numeral : v.IsNumeral) (written : convert .string v = .ok (.text s)) :
    ∃ d, convert .double (.text s) = .ok (.float d) ∧ v.RoundsTo d ∧ ∀ d', v = .float d' → d = d' := by
  have plain := plain_of_convert numeral.isNumber written
  obtain ⟨d, text, rounds, same⟩ := exists_doubleText_of_isNumeral numeral plain
  refine ⟨d, ((reads_double s).returns _).mpr ⟨d, rfl, ?_⟩, rounds, same⟩
  rwa [Text.trimChars_of_visible text.visible]

theorem not_convert_double_of_not_isNumeral (numeric : v.IsNumeric) (no : ¬ v.IsNumeral)
    (written : convert .string v = .ok (.text s)) (w : Value) : convert .double (.text s) ≠ .ok w := by
  obtain number | ⟨b, rfl⟩ := numeric
  · intro read
    obtain ⟨d, -, text⟩ := ((reads_double s).returns w).mp read
    exact not_doubleText_of_plain number no (plain_of_convert number written) d text
  · cases written
    cases b <;> exact nofun

theorem convert_integer_of_convert_string {n : Int} (written : convert .string (.int n) = .ok (.text s)) :
    convert .integer (.text s) = .ok (.int n) := by
  have number : (Value.int n).IsNumber := trivial
  obtain ⟨short, rfl⟩ := Numeral.write_eq_ok_iff.mp (plain_of_convert number written)
  have text := integerText_signed short
  refine ((reads_integer _).returns _).mpr ⟨n, rfl, ?_⟩
  obtain ⟨negative, d, double, -⟩ := text.exists_doubleText
  rwa [String.toList_ofList, Text.trimChars_of_visible double.visible]

theorem convert_boolean_of_convert_string {b : Bool} (written : convert .string (.bool b) = .ok (.text s)) :
    convert .boolean (.text s) = .ok (.bool b) := by
  cases written
  have lower : decide ((if b then "true" else "false").toLower = "true") = b := by
    cases b <;> decide +kernel
  exact congrArg (fun b => Except.ok (Value.bool b)) lower

/-- What a number or a boolean is written as is a float exactly if it is a numeral, and then the one
float that the number is: a float is read as itself. Whole numbers and booleans are read as
themselves too. -/
theorem convert_string_reads_back (numeric : v.IsNumeric) (written : convert .string v = .ok (.text s)) :
    ((∃ w, convert .double (.text s) = .ok w) ↔ v.IsNumeral) ∧
      (∀ w, convert .double (.text s) = .ok w → ∃ d, w = .float d ∧ v.RoundsTo d ∧
        (∀ d', v.RoundsTo d' → d' = d) ∧ ∀ d', v = .float d' → d' = d) ∧
      (∀ n, v = .int n → convert .integer (.text s) = .ok v) ∧
      ∀ b, v = .bool b → convert .boolean (.text s) = .ok v := by
  have numeral {w : Value} (read : convert .double (.text s) = .ok w) : v.IsNumeral := by
    by_contra no
    exact not_convert_double_of_not_isNumeral numeric no written w read
  refine ⟨⟨fun ⟨_, read⟩ => numeral read, fun h => ?_⟩, fun w read => ?_, ?_, ?_⟩
  · obtain ⟨d, read, -⟩ := exists_convert_double_of_isNumeral h written
    exact ⟨_, read⟩
  · obtain ⟨d, read', rounds, same⟩ := exists_convert_double_of_isNumeral (numeral read) written
    cases read.symm.trans read'
    exact ⟨d, rfl, rounds, fun d' other => other.unique rounds, fun d' float => (same d' float).symm⟩
  · rintro n rfl
    exact convert_integer_of_convert_string written
  · rintro b rfl
    exact convert_boolean_of_convert_string written

theorem convert_string_reads_back_scientific :
    let v := Value.decimal (.finite true 1 3)
    let d := Double.finite true (1000 * 2 ^ 43) (-43) (by decide)
    v.IsNumeric ∧ convert .string v = .ok (.text "-1E+3") ∧ convert .double (.text "-1E+3") = .ok (.float d) ∧
      v.RoundsTo d ∧ ∀ d', v.RoundsTo d' → d' = d := by
  intro v d
  have numeric : v.IsNumeric := .inl trivial
  have written : convert .string v = .ok (.text "-1E+3") := rfl
  have read : convert .double (.text "-1E+3") = .ok (.float d) := rfl
  obtain ⟨-, back, -⟩ := convert_string_reads_back numeric written
  obtain ⟨d', same, rounds, only, -⟩ := back _ read
  cases same
  exact ⟨numeric, written, read, rounds, only⟩

end Converter

end RecordPipeline
