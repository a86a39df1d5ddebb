import RecordPipeline.Proofs.Json.Written
set_option autoImplicit false

namespace RecordPipeline.Json

def IsLine (cs : List Char) : Prop := ∀ c ∈ cs, 0x20 ≤ c.toNat ∧ c.toNat < 0x7f

section Parts

variable {cs ds : List Char}

theorem isLine_nil : IsLine [] := by simp [IsLine]

theorem isLine_cons {c : Char} (first : 0x20 ≤ c.toNat ∧ c.toNat < 0x7f) (others : IsLine cs) : IsLine (c :: cs) :=
  List.forall_mem_cons.mpr ⟨first, others⟩

theorem IsLine.append (h : IsLine cs) (h' : IsLine ds) : IsLine (cs ++ ds) := List.forall_mem_append.mpr ⟨h, h'⟩

theorem isLine_of_isDigit (run : ∀ c ∈ cs, c.isDigit = true) : IsLine cs := by
  intro c member
  have bounds := Char.isDigit_iff_toNat.mp (run c member)
  simp only [Char.reduceToNat] at bounds
  omega

theorem isLine_digits (n : Nat) : IsLine (Numeral.digits n) :=
  isLine_of_isDigit fun _ => Numeral.isDigit_of_mem_digits

theorem isLine_signed (n : Int) : IsLine (Numeral.signed n) := by
  unfold Numeral.signed
  split
  · exact isLine_cons (by decide) (isLine_digits _)
  · exact isLine_digits _

theorem isLine_unitEscape {u : Nat} (small : u < 0x10000) : IsLine (unitEscape u) := by
  have digit : ∀ n < 16, 0x20 ≤ n.digitChar.toNat ∧ n.digitChar.toNat < 0x7f := by decide
  rw [unitEscape, Text.hex_four small]
  simp only [IsLine, List.forall_mem_cons, List.not_mem_nil, false_implies, implies_true, and_true]
  exact ⟨by decide, by decide, digit _ (by omega), digit _ (by omega), digit _ (by omega), digit _ (by omega)⟩

theorem isLine_units (c : Char) : IsLine ((units c).flatMap unitEscape) := by
  have valid := toNat_valid c
  unfold units
  split
  · rename_i small
    simpa using isLine_unitEscape small
  · simpa using (isLine_unitEscape (by omega)).append (isLine_unitEscape (by omega))

theorem isLine_escapeChar (c : Char) : IsLine (escapeChar c) := by
  have letters : ∀ e ∈ shortEscapes, 0x20 ≤ e.1.toNat ∧ e.1.toNat < 0x7f := by decide
  unfold escapeChar
  split
  · simp [IsLine]
  split
  · simp [IsLine]
  split
  · rename_i plain
    exact isLine_cons (by simpa [isPlain] using plain) isLine_nil
  split
  · rename_i e found
    exact isLine_cons (by decide) (isLine_cons (letters e (List.mem_of_find?_eq_some found)) isLine_nil)
  · exact isLine_units c

theorem isLine_quotedChars (cs : List Char) : IsLine (quotedChars cs) := by
  have escaped : IsLine (cs.flatMap escapeChar) := by
    intro c member
    obtain ⟨d, -, piece⟩ := List.mem_flatMap.mp member
    exact isLine_escapeChar d c piece
  exact isLine_cons (by decide) (escaped.append (isLine_cons (by decide) isLine_nil))

theorem isLine_signText (negative : Bool) : IsLine (signText negative) := by
  cases negative <;> simp [IsLine, signText]

theorem isLine_exponentText (exponent : Option Int) : IsLine (exponentText exponent) := by
  cases exponent with
  | none => exact isLine_nil
  | some e =>
    have digits : IsLine (Numeral.padded 2 e.natAbs) := isLine_of_isDigit fun _ => Numeral.isDigit_of_mem_padded
    refine isLine_cons (by decide) (isLine_cons ?_ digits)
    split <;> decide

theorem WholePart.isLine {whole : List Char} (h : WholePart whole) : IsLine whole := by
  cases h with
  | zero => exact isLine_cons (by decide) isLine_nil
  | run lead digits => exact isLine_of_isDigit digits

theorem isLine_fractionText {fraction : List Char} (run : ∀ c ∈ fraction, c.isDigit = true) :
    IsLine (fractionText fraction) := by
  cases fraction with
  | nil => exact isLine_nil
  | cons d ds => exact isLine_cons (by decide) (isLine_of_isDigit run)

theorem isLine_floatText (d : Double) : IsLine (floatText d) := by
  cases d with
  | finite negative m q canonical =>
    obtain ⟨whole, fraction, exponent, written, leads, run, -⟩ :=
      shows_render (Double.figures_exponent_of_coefficient canonical)
    have figures := leads.isLine.append ((isLine_fractionText run).append (isLine_exponentText exponent))
    rw [← written] at figures
    exact (isLine_signText negative).append figures
  | infinite negative => cases negative <;> simp [IsLine, floatText]
  | nan => simp [IsLine, floatText]

theorem isLine_boolText (b : Bool) : IsLine (boolText b) := by cases b <;> simp [IsLine, boolText]

theorem isLine_separated {parts : List (List Char)} (each : ∀ part ∈ parts, IsLine part) :
    IsLine (separated parts) := by
  induction parts with
  | nil => exact isLine_nil
  | cons part parts ih =>
    obtain ⟨first, others⟩ := List.forall_mem_cons.mp each
    cases parts with
    | nil => simpa [separated] using first
    | cons next parts =>
      rw [separated_cons_cons]
      exact first.append (isLine_cons (by decide) (isLine_cons (by decide) (ih others)))

end Parts

section Values

theorem encodeChars_int_eq_ok_iff {n : Int} {cs : List Char} :
    encodeChars (.int n) = .ok cs ↔ Numeral.tooLong n = false ∧ cs = Numeral.signed n := by
  rw [encodeChars, Numeral.write]
  cases Numeral.tooLong n <;> simp [bind, Except.bind, pure, Except.pure, @eq_comm _ cs]

theorem encode_eq_ok_iff {v : Value} {s : String} :
    encode v = .ok s ↔ v.depth ≤ encodingLimit ∧ ∃ cs, encodeChars v = .ok cs ∧ s = String.ofList cs := by
  rw [encode]
  split
  · rename_i deep
    exact iff_of_false (by simp) fun h => deep.not_ge h.1
  · rename_i shallow
    rw [and_iff_right (Nat.not_lt.mp shallow)]
    rcases encodeChars v with fault | cs <;> simp [Except.map, @eq_comm String s]

theorem exists_encodeChars_of_mem {fs : List (Value × Value)} {parts : List (List Char)}
    (h : encodeMembers fs = .ok parts) : ∀ f ∈ fs, ∃ cs, encodeChars f.2 = .ok cs := by
  induction fs generalizing parts with
  | nil => simp
  | cons f fs ih =>
    rw [encodeMembers] at h
    obtain ⟨key, -, rest⟩ := exists_of_bind_eq_ok h
    obtain ⟨cs, first, rest⟩ := exists_of_bind_eq_ok rest
    obtain ⟨others, later, -⟩ := exists_of_bind_eq_ok rest
    exact List.forall_mem_cons.mpr ⟨⟨cs, first⟩, ih later⟩

mutual

theorem isLine_encodeChars {v : Value} {cs : List Char} (h : encodeChars v = .ok cs) : IsLine cs := by
  cases v with
  | null =>
    cases h
    simp [IsLine]
  | bool b =>
    cases h
    exact isLine_boolText b
  | text s =>
    cases h
    exact isLine_quotedChars s.toList
  | int n =>
    obtain ⟨-, rfl⟩ := encodeChars_int_eq_ok_iff.mp h
    exact isLine_signed n
  | float d =>
    cases h
    exact isLine_floatText d
  | list xs | tuple xs =>
    rw [encodeChars] at h
    obtain ⟨parts, written, same⟩ := exists_of_bind_eq_ok h
    cases same
    have inner := isLine_separated (isLine_encodeItems written)
    exact isLine_cons (by decide) (inner.append (isLine_cons (by decide) isLine_nil))
  | record fs =>
    rw [encodeChars] at h
    obtain ⟨parts, written, same⟩ := exists_of_bind_eq_ok h
    cases same
    have inner := isLine_separated (isLine_encodeMembers written)
    exact isLine_cons (by decide) (inner.append (isLine_cons (by decide) isLine_nil))
  | decimal | fraction | bytes | complex | table | unknown =>
    rw [encodeChars.eq_def] at h
    obtain ⟨s, -, same⟩ := exists_of_bind_eq_ok h
    cases same
    exact isLine_quotedChars s.toList
termination_by sizeOf v

theorem isLine_encodeItems {xs : List Value} {parts : List (List Char)} (h : encodeItems xs = .ok parts) :
    ∀ part ∈ parts, IsLine part := by
  match xs with
  | [] =>
    cases h
    simp
  | x :: xs =>
    rw [encodeItems] at h
    obtain ⟨cs, first, rest⟩ := exists_of_bind_eq_ok h
    obtain ⟨others, later, same⟩ := exists_of_bind_eq_ok rest
    cases same
    exact List.forall_mem_cons.mpr ⟨isLine_encodeChars first, isLine_encodeItems later⟩
termination_by sizeOf xs

theorem isLine_encodeMembers {fs : List (Value × Value)} {parts : List (List Char)}
    (h : encodeMembers fs = .ok parts) : ∀ part ∈ parts, IsLine part := by
  match fs with
  | [] =>
    cases h
    simp
  | (k, v) :: fs =>
    rw [encodeMembers] at h
    obtain ⟨key, -, rest⟩ := exists_of_bind_eq_ok h
    obtain ⟨cs, first, rest⟩ := exists_of_bind_eq_ok rest
    obtain ⟨others, later, same⟩ := exists_of_bind_eq_ok rest
    cases same
    have value : IsLine (':' :: ' ' :: cs) :=
      isLine_cons (by decide) (isLine_cons (by decide) (isLine_encodeChars first))
    have member := (isLine_quotedChars key).append value
    exact List.forall_mem_cons.mpr ⟨member, isLine_encodeMembers later⟩
termination_by sizeOf fs

end

theorem isLine_encode {v : Value} {s : String} (h : encode v = .ok s) : IsLine s.toList := by
  obtain ⟨-, cs, written, rfl⟩ := encode_eq_ok_iff.mp h
  rw [String.toList_ofList]
  exact isLine_encodeChars written

end Values

end RecordPipeline.Json
