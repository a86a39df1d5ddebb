import RecordPipeline.Json.Reader
import RecordPipeline.Json.Writer
import RecordPipeline.Proofs.Double.Shortest
set_option autoImplicit false

namespace RecordPipeline.Json

open Figures (signedExponent)
open Numeral (span_isDigit)

def NoDigit (rest : List Char) : Prop := ∀ c cs, rest = c :: cs → c.isDigit = false

def EndsNumeral (rest : List Char) : Prop :=
  ∀ c cs, rest = c :: cs → c.isDigit = false ∧ c ≠ '.' ∧ c ≠ 'e' ∧ c ≠ 'E'

theorem EndsNumeral.noDigit {rest : List Char} (h : EndsNumeral rest) : NoDigit rest :=
  fun c cs front => (h c cs front).1

theorem endsNumeral_nil : EndsNumeral [] := fun _ _ h => by cases h

theorem endsNumeral_cons {c : Char} (cs : List Char)
    (h : c.isDigit = false ∧ c ≠ '.' ∧ c ≠ 'e' ∧ c ≠ 'E') : EndsNumeral (c :: cs) := by
  intro c' cs' front
  cases front
  exact h

/-- Whole parts as they are written: a zero, or digits that do not start with one. -/
inductive WholePart : List Char → Prop
  | zero : WholePart ['0']
  | run {c : Char} {cs : List Char} (lead : c ≠ '0') (digits : ∀ d ∈ c :: cs, d.isDigit = true) :
      WholePart (c :: cs)

theorem wholePart_digits (n : Nat) : WholePart (Numeral.digits n) := by
  obtain rfl | positive := Nat.eq_zero_or_pos n
  · exact .zero
  · have all : ∀ d ∈ Numeral.digits n, d.isDigit = true := fun d => Numeral.isDigit_of_mem_digits
    rcases front : Numeral.digits n with _ | ⟨c, cs⟩
    · exact absurd front (Numeral.digits_ne_nil n)
    · exact .run (Numeral.ne_zero_of_digits_eq_cons positive front) (front ▸ all)

theorem WholePart.take {ds : List Char} (h : WholePart ds) {k : Nat} (positive : 0 < k) :
    WholePart (ds.take k) := by
  obtain ⟨k, rfl⟩ := Nat.exists_eq_add_one_of_ne_zero positive.ne'
  cases h with
  | zero =>
    rw [List.take_succ_cons, List.take_nil]
    exact .zero
  | run lead digits =>
    rw [List.take_succ_cons]
    refine .run lead fun d hd => digits d ?_
    rcases List.mem_cons.mp hd with rfl | later
    · exact List.mem_cons_self
    · exact List.mem_cons_of_mem _ (List.mem_of_mem_take later)

theorem WholePart.exists_cons {ds : List Char} (h : WholePart ds) :
    ∃ c cs, ds = c :: cs ∧ c.isDigit = true := by
  cases h with
  | zero => exact ⟨_, _, rfl, rfl⟩
  | run lead digits => exact ⟨_, _, rfl, digits _ List.mem_cons_self⟩

theorem readWhole?_append {whole rest : List Char} (h : WholePart whole) (stop : NoDigit rest) :
    readWhole? (whole ++ rest) = some (whole, rest) := by
  cases h with
  | zero => rfl
  | run lead digits =>
    have spanned := span_isDigit digits stop
    rw [List.cons_append] at spanned ⊢
    simp only [readWhole?, lead, if_false, digits _ List.mem_cons_self, if_true, spanned]

theorem readFraction_point {ds rest : List Char} (some : ds ≠ [])
    (run : ∀ c ∈ ds, c.isDigit = true) (stop : NoDigit rest) :
    readFraction ('.' :: (ds ++ rest)) = (ds, rest) := by
  simp only [readFraction, span_isDigit run stop, List.isEmpty_eq_false_iff.mpr some, Bool.false_eq_true,
    if_false]

theorem readFraction_of_ne {rest : List Char} (h : ∀ c cs, rest = c :: cs → c ≠ '.') :
    readFraction rest = ([], rest) := by
  unfold readFraction
  split
  · exact absurd rfl (h _ _ rfl)
  · rfl

theorem readExponent_signed (width : Nat) (e : Int) {rest : List Char} (stop : NoDigit rest) :
    readExponent ('e' :: (signedExponent width e ++ rest)) = (some e, rest) := by
  have spanned := span_isDigit (fun _ => @Numeral.isDigit_of_mem_padded width e.natAbs _) stop
  have some : (Numeral.padded width e.natAbs).isEmpty = false := by
    simp [Numeral.padded, Numeral.digits_ne_nil]
  by_cases negative : e < 0
  · simp only [signedExponent, negative, if_true, List.cons_append, readExponent, Literal.readSign,
      decide_true, Bool.true_or, spanned, some, Bool.false_eq_true, if_false, Numeral.value_padded]
    congr 2
    omega
  · simp only [signedExponent, negative, if_false, List.cons_append, readExponent, Literal.readSign,
      decide_true, Bool.true_or, if_true, spanned, some, Bool.false_eq_true, Numeral.value_padded]
    congr 2
    omega

theorem readExponent_of_endsNumeral {rest : List Char} (h : EndsNumeral rest) :
    readExponent rest = (none, rest) := by
  cases rest with
  | nil => rfl
  | cons c cs =>
    obtain ⟨-, -, small, large⟩ := h c cs rfl
    simp [readExponent, small, large]

def signText (negative : Bool) : List Char := if negative then ['-'] else []

def fractionText : List Char → List Char
  | [] => []
  | ds => '.' :: ds

theorem fractionText_of_ne_nil {ds : List Char} (some : ds ≠ []) : fractionText ds = '.' :: ds := by
  cases ds with
  | nil => exact absurd rfl some
  | cons d ds => rfl

def exponentText : Option Int → List Char
  | none => []
  | some e => 'e' :: signedExponent 2 e

theorem readMinus_signText (negative : Bool) {whole : List Char} (h : WholePart whole)
    (rest : List Char) : readMinus (signText negative ++ (whole ++ rest)) = (negative, whole ++ rest) := by
  obtain ⟨c, cs, rfl, digit⟩ := h.exists_cons
  cases negative with
  | true => rfl
  | false =>
    simp only [signText, Bool.false_eq_true, if_false, List.nil_append, List.cons_append, readMinus]
    split
    · rename_i front
      cases front
      cases digit
    · rfl

theorem readFraction_fractionText {fraction rest : List Char} (run : ∀ c ∈ fraction, c.isDigit = true)
    (stop : NoDigit rest) (point : ∀ c cs, rest = c :: cs → c ≠ '.') :
    readFraction (fractionText fraction ++ rest) = (fraction, rest) := by
  cases fraction with
  | nil => exact readFraction_of_ne point
  | cons d ds => exact readFraction_point (List.cons_ne_nil d ds) run stop

theorem readExponent_exponentText (exponent : Option Int) {rest : List Char} (h : EndsNumeral rest) :
    readExponent (exponentText exponent ++ rest) = (exponent, rest) := by
  cases exponent with
  | none => exact readExponent_of_endsNumeral h
  | some e => exact readExponent_signed 2 e h.noDigit

/-- A written numeral with a fraction or an exponent is read as the literal that it shows. -/
theorem readNumber_literal (negative : Bool) {whole fraction rest : List Char} {exponent : Option Int}
    (leads : WholePart whole) (run : ∀ c ∈ fraction, c.isDigit = true)
    (more : fraction ≠ [] ∨ exponent ≠ none) (h : EndsNumeral rest) :
    readNumber (signText negative ++ (whole ++ (fractionText fraction ++ (exponentText exponent ++ rest)))) =
      .ok (.float (Literal.nearest { negative, whole, fraction, exponent := exponent.getD 0 }), rest) := by
  have mark : NoDigit (exponentText exponent ++ rest) ∧
      ∀ c cs, exponentText exponent ++ rest = c :: cs → c ≠ '.' := by
    cases exponent with
    | none => exact ⟨h.noDigit, fun c cs front => (h c cs front).2.1⟩
    | some e =>
      constructor <;>
      · intro c cs front
        cases front
        decide
  have point : NoDigit (fractionText fraction ++ (exponentText exponent ++ rest)) := by
    cases fraction with
    | nil => exact mark.1
    | cons d ds =>
      intro c cs front
      cases front
      decide
  have float : (fraction.isEmpty && exponent.isNone) = false := by
    cases fraction <;> cases exponent <;> simp_all
  simp only [readNumber, readMinus_signText negative leads, readWhole?_append leads point,
    readFraction_fractionText run mark.1 mark.2, readExponent_exponentText exponent h, float,
    Bool.false_eq_true, if_false]

def Shows (f : Figures) (cs : List Char) : Prop :=
  ∃ whole fraction exponent, cs = whole ++ (fractionText fraction ++ exponentText exponent) ∧
    WholePart whole ∧ (∀ c ∈ fraction, c.isDigit = true) ∧ (fraction ≠ [] ∨ exponent ≠ none) ∧
    ∀ negative, Literal.nearest { negative, whole, fraction, exponent := exponent.getD 0 } =
      Double.ofScientific negative f.coefficient f.exponent

theorem Shows.readNumber {f : Figures} {cs rest : List Char} (shows : Shows f cs) (negative : Bool)
    (h : EndsNumeral rest) : readNumber (signText negative ++ (cs ++ rest)) =
      .ok (.float (Double.ofScientific negative f.coefficient f.exponent), rest) := by
  obtain ⟨whole, fraction, exponent, rfl, leads, run, more, value⟩ := shows
  rw [List.append_assoc, List.append_assoc, readNumber_literal negative leads run more h, value]

section Layout

variable {c : Nat} {e : Int}

theorem nearest_eq_ofScientific {l : Literal} {k : Nat}
    (value : Numeral.value (l.whole ++ l.fraction) = c * 10 ^ k)
    (exponent : l.exponent - l.fraction.length = e - k) :
    l.nearest = Double.ofScientific l.negative c e := by
  rw [Literal.nearest, value, exponent, Double.ofScientific_mul_ten_pow]

theorem shows_small (h : e + (Numeral.digits c).length ≤ 0) :
    Shows ⟨c, e⟩ ('0' :: '.' ::
      (List.replicate (-(e + (Numeral.digits c).length)).toNat '0' ++ Numeral.digits c)) := by
  have some : List.replicate (-(e + (Numeral.digits c).length)).toNat '0' ++ Numeral.digits c ≠ [] := by
    simp [Numeral.digits_ne_nil]
  refine ⟨['0'], _, none, ?_, .zero, ?_, .inl some, fun negative => ?_⟩
  · rw [fractionText_of_ne_nil some]
    simp [exponentText]
  · intro d member
    rcases List.mem_append.mp member with zero | digit
    · rw [(List.mem_replicate.mp zero).2]
      rfl
    · exact Numeral.isDigit_of_mem_digits digit
  · refine nearest_eq_ofScientific (k := 0) ?_ ?_
    · show Numeral.value ('0' :: (List.replicate _ '0' ++ Numeral.digits c)) = _
      rw [Numeral.value_zero_cons, Numeral.value_append, Numeral.value_replicate_zero]
      simp
    · simp
      omega

theorem shows_whole (h : 0 ≤ e) (zero : c = 0 → e = 0) :
    Shows ⟨c, e⟩ (Numeral.digits c ++ List.replicate e.toNat '0' ++ ['.', '0']) := by
  have padded : Numeral.digits c ++ List.replicate e.toNat '0' = Numeral.digits (c * 10 ^ e.toNat) := by
    obtain rfl | positive := Nat.eq_zero_or_pos c
    · simp [zero rfl]
    · exact (Numeral.digits_mul_ten_pow positive e.toNat).symm
  rw [padded]
  refine ⟨_, ['0'], none, rfl, wholePart_digits _, by simp, .inl (by simp), fun negative => ?_⟩
  refine nearest_eq_ofScientific (k := e.toNat + 1) ?_ ?_
  · have zero : Numeral.value ['0'] = 0 := rfl
    simp [Numeral.value_append, zero, Nat.pow_succ, Nat.mul_assoc]
  · simp
    omega

theorem shows_between {k : Nat} (positive : 0 < k) (less : k < (Numeral.digits c).length)
    (point : e = k - (Numeral.digits c).length) :
    Shows ⟨c, e⟩ ((Numeral.digits c).take k ++ '.' :: (Numeral.digits c).drop k) := by
  have some : (Numeral.digits c).drop k ≠ [] := by simpa using less
  refine ⟨_, (Numeral.digits c).drop k, none, ?_, (wholePart_digits c).take positive, ?_, .inl some,
    fun negative => ?_⟩
  · rw [fractionText_of_ne_nil some]
    simp [exponentText]
  · exact fun d member => Numeral.isDigit_of_mem_digits (List.mem_of_mem_drop member)
  · refine nearest_eq_ofScientific (k := 0) ?_ ?_
    · simp
    · simp
      omega

theorem shows_scientific :
    Shows ⟨c, e⟩ (Figures.scientific .plain (Numeral.digits c) (e + (Numeral.digits c).length - 1)) := by
  have length := List.length_pos_iff.mpr (Numeral.digits_ne_nil c)
  refine ⟨_, (Numeral.digits c).drop 1, some (e + (Numeral.digits c).length - 1), ?_,
    (wholePart_digits c).take Nat.one_pos, ?_, .inr (by simp), fun negative => ?_⟩
  · rw [Figures.scientific]
    cases (Numeral.digits c).drop 1 <;>
      simp [fractionText, exponentText, Figures.Layout.plain]
  · exact fun d member => Numeral.isDigit_of_mem_digits (List.mem_of_mem_drop member)
  · refine nearest_eq_ofScientific (k := 0) ?_ ?_
    · show Numeral.value (List.take 1 _ ++ List.drop 1 _) = _
      rw [List.take_append_drop, Numeral.value_digits, Nat.pow_zero, Nat.mul_one]
    · simp
      omega

theorem shows_render {f : Figures} (zero : f.coefficient = 0 → f.exponent = 0) :
    Shows f (f.render .plain) := by
  obtain ⟨c, e⟩ := f
  simp only [Figures.render]
  -- the point stands before all digits, behind them or between two of them, or there is an exponent
  split
  · simp only [Figures.positional, Figures.Layout.plain, if_true]
    split
    · rename_i below
      simpa using @shows_small c e (by omega)
    · split
      · rename_i above whole
        have zeros : (e + (Numeral.digits c).length - 1 + 1).toNat - (Numeral.digits c).length = e.toNat := by
          omega
        rw [zeros]
        exact shows_whole (by omega) zero
      · exact shows_between (by omega) (by omega) (by omega)
  · exact shows_scientific

end Layout

theorem signed_eq (n : Int) : Numeral.signed n = signText (n < 0) ++ Numeral.digits n.natAbs := by
  by_cases negative : n < 0 <;> simp [Numeral.signed, signText, negative]

theorem readNumber_signed {n : Int} {rest : List Char} (short : Numeral.tooLong n = false)
    (h : EndsNumeral rest) : readNumber (Numeral.signed n ++ rest) = .ok (.int n, rest) := by
  have short' : Numeral.tooLong (n.natAbs : Int) = false := by
    simpa only [Numeral.tooLong, Int.natAbs_natCast] using short
  have leads := wholePart_digits n.natAbs
  have point : ∀ c cs, rest = c :: cs → c ≠ '.' := fun c cs front => (h c cs front).2.1
  have read : (if n < 0 then -(n.natAbs : Int) else n.natAbs) = n := by
    split <;> omega
  simp only [signed_eq, List.append_assoc, readNumber, readMinus_signText _ leads,
    readWhole?_append leads h.noDigit, readFraction_of_ne point, readExponent_of_endsNumeral h,
    Numeral.readRun_digits short', List.isEmpty_nil, Option.isNone_none, Bool.and_self, if_true,
    decide_eq_true_eq, read]

theorem readNumber_finite (negative : Bool) {m : Nat} {q : Int} (canonical : Double.Canonical m q)
    {rest : List Char} (h : EndsNumeral rest) :
    readNumber (signText negative ++ ((Double.figures m q).render .plain ++ rest)) =
      .ok (.float (.finite negative m q canonical), rest) := by
  rw [(shows_render (Double.figures_exponent_of_coefficient canonical)).readNumber negative h,
    Double.ofScientific_eq_finite negative (Double.nearest_figures canonical)]

theorem readWord?_eq_none {cs : List Char} (h : ∀ w ∈ words, w.1.toList.isPrefixOf cs = false) :
    readWord? cs = none := by
  rw [readWord?, List.findSome?_eq_none_iff]
  intro w member
  rw [after?, h w member]
  rfl

theorem isPrefixOf_eq_false_of_ne {c d : Char} (h : c ≠ d) (cs ds : List Char) :
    (c :: cs).isPrefixOf (d :: ds) = false := by
  simp [List.isPrefixOf, h]

theorem readWord?_numeral (negative : Bool) {whole : List Char} (h : WholePart whole) (rest : List Char) :
    readWord? (signText negative ++ (whole ++ rest)) = none := by
  obtain ⟨c, cs, rfl, digit⟩ := h.exists_cons
  have letter {l : Char} (other : l.isDigit = false) : l ≠ c := by
    rintro rfl
    rw [digit] at other
    cases other
  apply readWord?_eq_none
  cases negative with
  | false =>
    simp only [words, List.forall_mem_cons, List.not_mem_nil, false_implies, implies_true, and_true]
    refine ⟨?_, ?_, ?_, ?_, ?_, ?_⟩ <;> exact isPrefixOf_eq_false_of_ne (letter (by decide)) _ _
  | true =>
    have sign : signText true ++ (c :: cs ++ rest) = '-' :: c :: (cs ++ rest) := rfl
    have second : ("-Infinity".toList).isPrefixOf ('-' :: c :: (cs ++ rest)) = false :=
      isPrefixOf_eq_false_of_ne (letter (by decide)) _ _
    simp only [words, List.forall_mem_cons, List.not_mem_nil, false_implies, implies_true, and_true, sign,
      second]
    refine ⟨?_, ?_, ?_, ?_, ?_⟩ <;> exact isPrefixOf_eq_false_of_ne (by decide) _ _

theorem readScalar_float (d : Double) {rest : List Char} (h : EndsNumeral rest) :
    readScalar (floatText d ++ rest) = .ok (.float d, rest) := by
  cases d with
  | finite negative m q canonical =>
    obtain ⟨whole, fraction, exponent, written, leads, -⟩ :=
      shows_render (Double.figures_exponent_of_coefficient canonical)
    have text : floatText (.finite negative m q canonical) ++ rest =
        signText negative ++ ((Double.figures m q).render .plain ++ rest) := List.append_assoc ..
    have none := readWord?_numeral negative leads (fractionText fraction ++ exponentText exponent ++ rest)
    rw [← List.append_assoc whole, ← written] at none
    rw [text, readScalar, none, readNumber_finite negative canonical h]
  | infinite negative => cases negative <;> rfl
  | nan => rfl

theorem readScalar_signed {n : Int} {rest : List Char} (short : Numeral.tooLong n = false)
    (h : EndsNumeral rest) : readScalar (Numeral.signed n ++ rest) = .ok (.int n, rest) := by
  have none := readWord?_numeral (n < 0) (wholePart_digits n.natAbs) rest
  rw [← List.append_assoc, ← signed_eq] at none
  rw [readScalar, none, readNumber_signed short h]

end RecordPipeline.Json
