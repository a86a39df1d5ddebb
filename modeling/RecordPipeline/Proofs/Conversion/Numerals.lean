import Mathlib.Data.List.TakeWhile
import Mathlib.Tactic.FieldSimp
import RecordPipeline.Conversion.Converter
import RecordPipeline.Proofs.Double.Nearest
import RecordPipeline.Proofs.Text.Blank
import RecordPipeline.Proofs.Text.Numeral
set_option autoImplicit false

/-!
Texts that denote numbers. Without the blanks around it such a text is a whole number, a decimal
literal or one of two words, and the converters return the number that it denotes; any other text
they refuse as it came.
-/

namespace RecordPipeline

open Numeral (isRun isRun_iff span_isDigit)

inductive SignText : Bool → List Char → Prop
  | none : SignText false []
  | plus : SignText false ['+']
  | minus : SignText true ['-']

namespace Literal

/-- Digits with an optional point after or among them, or a point and digits after it: the text, the
digits before the point and those after it. -/
inductive MantissaText : List Char → List Char → List Char → Prop
  | whole {ds : List Char} (run : isRun ds = true) : MantissaText ds ds []
  | point {ds fs : List Char} (run : isRun ds = true) (digits : ∀ c ∈ fs, c.isDigit = true) :
    MantissaText (ds ++ '.' :: fs) ds fs
  | fraction {fs : List Char} (run : isRun fs = true) : MantissaText ('.' :: fs) [] fs

inductive ExponentText : List Char → Int → Prop
  | none : ExponentText [] 0
  | marked {mark : Char} {negative : Bool} {sign ds : List Char} (letter : mark = 'e' ∨ mark = 'E')
    (signed : SignText negative sign) (run : isRun ds = true) :
    ExponentText (mark :: (sign ++ ds)) (if negative then -(Numeral.value ds : Int) else Numeral.value ds)

/-- The text of a literal. -/
inductive Written : List Char → Literal → Prop
  | mk {negative : Bool} {sign ms ws fs es : List Char} {e : Int} (signed : SignText negative sign)
    (mantissa : MantissaText ms ws fs) (exponent : ExponentText es e) :
    Written (sign ++ (ms ++ es)) { negative, whole := ws, fraction := fs, exponent := e }

def magnitude (l : Literal) : ℚ :=
  (Numeral.value l.whole + Numeral.value l.fraction / 10 ^ l.fraction.length) * 10 ^ l.exponent

section Sign

variable {negative : Bool} {sign rest : List Char}

def Unsigned (cs : List Char) : Prop := ∀ c rest, cs = c :: rest → c ≠ '-' ∧ c ≠ '+'

theorem readSign_append (signed : SignText negative sign) (unsigned : Unsigned rest) :
    readSign (sign ++ rest) = (negative, rest) := by
  cases signed with
  | plus => rfl
  | minus => rfl
  | none =>
    rw [List.nil_append, readSign.eq_def]
    split
    · exact absurd rfl (unsigned _ _ rfl).1
    · exact absurd rfl (unsigned _ _ rfl).2
    · rfl

theorem exists_sign (cs : List Char) : ∃ sign, SignText (readSign cs).1 sign ∧ cs = sign ++ (readSign cs).2 := by
  rw [readSign.eq_def]
  split
  · exact ⟨['-'], .minus, rfl⟩
  · exact ⟨['+'], .plus, rfl⟩
  · exact ⟨[], .none, rfl⟩

theorem unsigned_of_isDigit {c : Char} (digit : c.isDigit = true) (cs : List Char) : Unsigned (c :: cs) := by
  rintro _ _ ⟨⟩
  constructor <;> rintro rfl <;> cases digit

theorem unsigned_append_of_isRun {ds : List Char} (run : isRun ds = true) (cs : List Char) :
    Unsigned (ds ++ cs) := by
  obtain ⟨some, digits⟩ := isRun_iff.mp run
  cases ds with
  | nil => exact absurd rfl some
  | cons c ds => exact unsigned_of_isDigit (digits c List.mem_cons_self) _

end Sign

section Exponent

variable {es : List Char} {e : Int}

theorem readExponent_eq_some_iff : readExponent es = some e ↔ ExponentText es e := by
  constructor
  · intro read
    cases es with
    | nil =>
      cases read
      exact .none
    | cons mark cs =>
      simp only [readExponent, Bool.or_eq_true, decide_eq_true_eq] at read
      obtain ⟨sign, signed, parts⟩ := exists_sign cs
      generalize readSign cs = signAndDigits at read signed parts
      obtain ⟨negative, ds⟩ := signAndDigits
      subst parts
      split at read
      · rename_i letter
        split at read
        · rename_i run
          cases read
          exact .marked letter signed run
        · cases read
      · cases read
  · intro text
    cases text with
    | none => rfl
    | marked letter signed run =>
      have split := readSign_append signed (List.append_nil _ ▸ unsigned_append_of_isRun run [])
      simp only [readExponent, Bool.or_eq_true, decide_eq_true_eq, if_pos letter, split, if_pos run]

theorem ExponentText.stops (text : ExponentText es e) {c : Char} {cs : List Char} (front : es = c :: cs) :
    c.isDigit = false ∧ c ≠ '.' := by
  subst front
  cases text with
  | marked letter => rcases letter with rfl | rfl <;> decide

theorem readFraction_of_exponent (text : ExponentText es e) : readFraction es = ([], es) := by
  rw [readFraction.eq_def]
  split
  · exact absurd rfl (text.stops rfl).2
  · rfl

end Exponent

section Read

variable {cs : List Char} {l : Literal}

theorem readFraction_point {fs es : List Char} {e : Int} (digits : ∀ c ∈ fs, c.isDigit = true)
    (exponent : ExponentText es e) : readFraction ('.' :: (fs ++ es)) = (fs, es) :=
  span_isDigit digits fun _ _ front => (exponent.stops front).1

/-- In front of an exponent a mantissa is read back: the digits before the point, and those after it
out of what is left. -/
theorem MantissaText.exists_rest {ms ws fs es : List Char} {e : Int} (mantissa : MantissaText ms ws fs)
    (exponent : ExponentText es e) : Unsigned (ms ++ es) ∧ (ws.isEmpty && fs.isEmpty) = false ∧
      ∃ rest, (ms ++ es).span Char.isDigit = (ws, rest) ∧ readFraction rest = (fs, es) := by
  cases mantissa with
  | whole run =>
    obtain ⟨some, digits⟩ := isRun_iff.mp run
    have whole := span_isDigit digits fun _ _ front => (exponent.stops front).1
    exact ⟨unsigned_append_of_isRun run es, by simp [some], es, whole, readFraction_of_exponent exponent⟩
  | point run digits =>
    obtain ⟨some, whole⟩ := isRun_iff.mp run
    have before := @span_isDigit ws ('.' :: (fs ++ es)) whole (by rintro c cs ⟨⟩; rfl)
    rw [List.append_assoc, List.cons_append]
    exact ⟨unsigned_append_of_isRun run _, by simp [some], _, before, readFraction_point digits exponent⟩
  | fraction run =>
    obtain ⟨some, digits⟩ := isRun_iff.mp run
    have before := @span_isDigit [] ('.' :: (fs ++ es)) (by simp) (by rintro c cs ⟨⟩; rfl)
    have unsigned : Unsigned ('.' :: (fs ++ es)) := by rintro c cs ⟨⟩; decide
    exact ⟨unsigned, by simp [some], _, before, readFraction_point digits exponent⟩

theorem read?_of_written (written : Written cs l) : read? cs = some l := by
  cases written with
  | mk signed mantissa exponent =>
    obtain ⟨unsigned, some, rest, whole, fraction⟩ := mantissa.exists_rest exponent
    simp only [read?, readSign_append signed unsigned, whole, fraction, some, Bool.false_eq_true, if_false,
      readExponent_eq_some_iff.mpr exponent, Option.map_some]

theorem exists_fraction (rest : List Char) :
    (∃ fs es, rest = '.' :: (fs ++ es) ∧ (∀ c ∈ fs, c.isDigit = true) ∧ readFraction rest = (fs, es)) ∨
      readFraction rest = ([], rest) := by
  rw [readFraction.eq_def]
  split
  · rename_i cs
    refine .inl ⟨cs.takeWhile Char.isDigit, cs.dropWhile Char.isDigit, ?_, fun c => List.mem_takeWhile_imp,
      List.span_eq_takeWhile_dropWhile _ _⟩
    rw [List.takeWhile_append_dropWhile]
  · exact .inr rfl

theorem exists_mantissa {ws rest fs es : List Char} (whole : ∀ c ∈ ws, c.isDigit = true)
    (split : readFraction rest = (fs, es)) (some : ¬ (ws.isEmpty && fs.isEmpty) = true) :
    ∃ ms, MantissaText ms ws fs ∧ ws ++ rest = ms ++ es := by
  rw [Bool.and_eq_true, List.isEmpty_iff, List.isEmpty_iff] at some
  obtain ⟨fs', es', rfl, digits, split'⟩ | split' := exists_fraction rest
  · cases split.symm.trans split'
    obtain rfl | nonempty := eq_or_ne ws []
    · have run : isRun fs = true := isRun_iff.mpr ⟨fun none => some ⟨rfl, none⟩, digits⟩
      exact ⟨_, .fraction run, rfl⟩
    · exact ⟨_, .point (isRun_iff.mpr ⟨nonempty, whole⟩) digits, by simp⟩
  · cases split.symm.trans split'
    have run : isRun ws = true := isRun_iff.mpr ⟨fun none => some ⟨none, rfl⟩, whole⟩
    exact ⟨_, .whole run, rfl⟩

theorem written_of_read? (read : read? cs = some l) : Written cs l := by
  obtain ⟨sign, signed, parts⟩ := exists_sign cs
  simp only [read?, List.span_eq_takeWhile_dropWhile] at read
  generalize readSign cs = front at read signed parts
  obtain ⟨negative, digits⟩ := front
  have whole : ∀ c ∈ digits.takeWhile Char.isDigit, c.isDigit = true := fun c => List.mem_takeWhile_imp
  have joined : digits.takeWhile Char.isDigit ++ digits.dropWhile Char.isDigit = digits :=
    List.takeWhile_append_dropWhile
  rcases fraction : readFraction (digits.dropWhile Char.isDigit) with ⟨fs, es⟩
  simp only [fraction] at read
  split at read
  · cases read
  · rename_i some
    obtain ⟨ms, mantissa, text⟩ := exists_mantissa whole fraction some
    obtain ⟨e, power, rfl⟩ := Option.map_eq_some_iff.mp read
    have whole_text : cs = sign ++ (ms ++ es) := by rw [parts, ← text, joined]
    rw [whole_text]
    exact .mk signed mantissa (readExponent_eq_some_iff.mp power)

end Read

theorem rounds_nearest (l : Literal) : Double.Rounds l.negative l.magnitude l.nearest := by
  have rounded := Double.rounds_ofScientific l.negative (Numeral.value (l.whole ++ l.fraction))
    (l.exponent - l.fraction.length)
  have ten : (10 : ℚ) ≠ 0 := by norm_num
  have shifted : (Numeral.value (l.whole ++ l.fraction) : ℚ) * 10 ^ (l.exponent - l.fraction.length) =
      l.magnitude := by
    rw [Numeral.value_append, zpow_sub₀ ten, zpow_natCast, magnitude]
    push_cast
    field_simp
  rwa [shifted] at rounded

end Literal

inductive WordText : List Char → Double → Prop
  | nan {negative : Bool} {sign : List Char} (signed : SignText negative sign) :
    WordText (sign ++ "NaN".toList) .nan
  | infinity {negative : Bool} {sign : List Char} (signed : SignText negative sign) :
    WordText (sign ++ "Infinity".toList) (.infinite negative)

inductive DoubleText (cs : List Char) : Double → Prop
  | literal {l : Literal} {d : Double} (written : l.Written cs) (rounds : Double.Rounds l.negative l.magnitude d) :
    DoubleText cs d
  | word {d : Double} (text : WordText cs d) : DoubleText cs d

/-- An optional sign and digits, not more than numerals may have. -/
inductive IntegerText : List Char → Int → Prop
  | mk {negative : Bool} {sign ds : List Char} (signed : SignText negative sign) (run : isRun ds = true)
    (short : ds.length ≤ 4300) :
    IntegerText (sign ++ ds) (if negative then -(Numeral.value ds : Int) else Numeral.value ds)

section Words

variable {cs : List Char} {d : Double}

theorem WordText.read? (text : WordText cs d) : Literal.read? cs = none ∧ Double.read? cs = some d := by
  cases text with
  | nan signed => cases signed <;> exact ⟨rfl, rfl⟩
  | infinity signed => cases signed <;> exact ⟨rfl, rfl⟩

theorem doubleText_of_read? (read : Double.read? cs = some d) : DoubleText cs d := by
  unfold Double.read? at read
  split at read
  · rename_i l literal
    cases read
    exact .literal (Literal.written_of_read? literal) l.rounds_nearest
  · obtain ⟨sign, signed, parts⟩ := Literal.exists_sign cs
    generalize Literal.readSign cs = front at read signed parts
    obtain ⟨negative, word⟩ := front
    simp only at read parts
    split_ifs at read with nan infinity <;> cases read
    · rw [parts, nan]
      exact .word (.nan signed)
    · rw [parts, infinity]
      exact .word (.infinity signed)

theorem Double.read?_eq_some_iff : Double.read? cs = some d ↔ DoubleText cs d := by
  constructor
  · exact doubleText_of_read?
  · intro text
    cases text with
    | word text => exact text.read?.2
    | @literal l _ written rounds =>
      obtain rfl := rounds.unique l.rounds_nearest
      simp only [Double.read?, Literal.read?_of_written written]

end Words

namespace Converter

theorem readInteger?_eq_some_iff {cs : List Char} {n : Int} : readInteger? cs = some n ↔ IntegerText cs n := by
  constructor
  · intro read
    unfold readInteger? at read
    obtain ⟨sign, signed, parts⟩ := Literal.exists_sign cs
    generalize Literal.readSign cs = front at read signed parts
    obtain ⟨negative, ds⟩ := front
    subst parts
    simp only at read
    split at read
    · rename_i run
      by_cases short : ds.length ≤ Numeral.digitLimit
      · rw [Numeral.readRun_of_le short] at read
        cases read
        exact .mk signed run short
      · rw [Numeral.readRun_of_lt (Nat.not_le.mp short)] at read
        cases read
    · cases read
  · intro text
    cases text with
    | mk signed run short =>
      have split := Literal.readSign_append signed (List.append_nil _ ▸ Literal.unsigned_append_of_isRun run [])
      simp only [readInteger?, split, if_pos run, Numeral.readRun_of_le short]

/-- What a conversion of a text comes to, given the values that the text denotes: one of them, or
the refusal of the text as it came. -/
structure Reads (target : TargetType) (s : String) (denotes : Value → Prop) : Prop where
  returns : ∀ v, convert target (.text s) = .ok v ↔ denotes v
  refuses : (∀ v, ¬ denotes v) →
    convert target (.text s) = .error (.refused (.numberFormat (.text s) target (Text.quoted s)))

theorem eq_ok_iff_of_found {α : Type} {r : Except ConversionFault Value} {found? : Option α} {make : α → Value}
    (fault : ConversionFault)
    (converted : r = match found? with
      | some x => .ok (make x)
      | none => .error fault) (v : Value) :
    r = .ok v ↔ ∃ x, found? = some x ∧ v = make x := by
  rw [converted]
  cases found? <;> simp [eq_comm]

theorem reads_of_found {α : Type} {target : TargetType} {s : String} {found? : Option α} {make : α → Value}
    {denotes : α → Prop}
    (converted : convert target (.text s) = match found? with
      | some x => .ok (make x)
      | none => .error (.refused (.numberFormat (.text s) target (Text.quoted s))))
    (found : ∀ x, found? = some x ↔ denotes x) :
    Reads target s fun v => ∃ x, v = make x ∧ denotes x := by
  constructor
  · intro v
    rw [eq_ok_iff_of_found _ converted]
    exact exists_congr fun x => by rw [found, and_comm]
  · intro none
    cases found? with
    | none => exact converted
    | some x => exact absurd ⟨x, rfl, (found x).mp rfl⟩ (none (make x))

theorem reads_integer (s : String) :
    Reads .integer s fun v => ∃ n, v = .int n ∧ IntegerText (Text.trimChars s.toList) n := by
  refine reads_of_found ?_ fun _ => readInteger?_eq_some_iff
  simp only [convert, SourceKind.of, toInteger]
  cases readInteger? (Text.trimChars s.toList) <;> rfl

theorem reads_double (s : String) :
    Reads .double s fun v => ∃ d, v = .float d ∧ DoubleText (Text.trimChars s.toList) d := by
  refine reads_of_found ?_ fun _ => Double.read?_eq_some_iff
  simp only [convert, SourceKind.of, toDouble]
  cases Double.read? (Text.trimChars s.toList) <;> rfl

/-- The texts that the converters of numbers accept are those that denote one when the blanks around
them are left out, and what they return is the number denoted. Every literal denotes a float. -/
theorem convert_text_reads (s : String) : ∃ t, Text.Stripped s.toList t ∧
    (∀ t', Text.Stripped s.toList t' → t' = t) ∧
    Reads .integer s (fun v => ∃ n, v = .int n ∧ IntegerText t n) ∧
    Reads .double s (fun v => ∃ d, v = .float d ∧ DoubleText t d) ∧
    ((∃ d, DoubleText t d) ↔ (∃ l, Literal.Written t l) ∨ ∃ d, WordText t d) := by
  refine ⟨Text.trimChars s.toList, Text.stripped_trimChars _, fun _ other => other.eq_trimChars, reads_integer s,
    reads_double s, ?_, ?_⟩
  · rintro ⟨d, written | text⟩
    · exact .inl ⟨_, ‹_›⟩
    · exact .inr ⟨d, text⟩
  · rintro (⟨l, written⟩ | ⟨d, text⟩)
    · exact ⟨l.nearest, .literal written l.rounds_nearest⟩
    · exact ⟨d, .word text⟩

end Converter

end RecordPipeline
