import RecordPipeline.Json.Writer
import RecordPipeline.Proofs.Json.Native
import RecordPipeline.Proofs.Json.Numeral
import RecordPipeline.Proofs.Json.Quoted
set_option autoImplicit false

/-!
Native values written and read back. The reader takes the text of a value whole, whatever follows
it, and the text of a document gives the value that was written.
-/

namespace RecordPipeline.Json

def StartsValue (cs : List Char) : Prop :=
  ∃ c tail, cs = c :: tail ∧ isSpace c = false ∧ c ≠ ']' ∧ c ≠ '\ufeff'

/-- The text of a value. Fuel is enough if there are two units for each character. -/
structure Reads (room : Nat) (v : Value) (cs : List Char) : Prop where
  starts : StartsValue cs
  read : ∀ (fuel : Nat) {rest}, 2 * cs.length ≤ fuel → EndsNumeral rest →
    readValue fuel room (cs ++ rest) = .ok (v, rest)

theorem StartsValue.skipSpace {cs : List Char} (h : StartsValue cs) (rest : List Char) :
    skipSpace (cs ++ rest) = cs ++ rest := by
  obtain ⟨c, tail, rfl, space, -⟩ := h
  simp [Json.skipSpace, space]

section Scalar

variable {room : Nat} {v : Value} {cs : List Char}

theorem reads_of_readScalar (front : ∃ c tail, cs = c :: tail ∧ (c.isAlphanum || c = '-') = true)
    (scalar : ∀ {rest}, EndsNumeral rest → readScalar (cs ++ rest) = .ok (v, rest)) : Reads room v cs := by
  obtain ⟨c, tail, rfl, mark⟩ := front
  have other {d : Char} (no : (d.isAlphanum || d = '-') = false) : c ≠ d := by
    rintro rfl
    rw [mark] at no
    cases no
  have space : isSpace c = false := by
    simp [isSpace, other (d := ' ') (by decide), other (d := '\t') (by decide),
      other (d := '\n') (by decide), other (d := '\r') (by decide)]
  refine ⟨⟨c, tail, rfl, space, other (by decide), other (by decide)⟩, ?_⟩
  intro fuel rest enough ends
  obtain ⟨fuel, rfl⟩ := Nat.exists_eq_add_one_of_ne_zero (n := fuel) (by simp at enough; omega)
  have read := scalar ends
  rw [List.cons_append] at read ⊢
  simp only [readValue, other (d := '"') (by decide), other (d := '[') (by decide),
    other (d := '\x7b') (by decide), if_false, read]

theorem WholePart.front {whole : List Char} (h : WholePart whole) (negative : Bool) (rest : List Char) :
    ∃ c tail, signText negative ++ (whole ++ rest) = c :: tail ∧ (c.isAlphanum || c = '-') = true := by
  obtain ⟨c, tail, rfl, digit⟩ := h.exists_cons
  cases negative with
  | true => exact ⟨'-', _, rfl, by decide⟩
  | false => exact ⟨c, tail ++ rest, rfl, by simp [Char.isAlphanum, digit]⟩

theorem reads_signed {n : Int} (short : Numeral.tooLong n = false) :
    Reads room (.int n) (Numeral.signed n) := by
  refine reads_of_readScalar ?_ (readScalar_signed short)
  have front := (wholePart_digits n.natAbs).front (n < 0) []
  rwa [List.append_nil, ← signed_eq] at front

theorem reads_floatText (d : Double) : Reads room (.float d) (floatText d) := by
  refine reads_of_readScalar ?_ (readScalar_float d)
  cases d with
  | finite negative m q canonical =>
    obtain ⟨whole, fraction, exponent, written, leads, -⟩ :=
      shows_render (Double.figures_exponent_of_coefficient canonical)
    have front := leads.front negative (fractionText fraction ++ exponentText exponent)
    rwa [← written] at front
  | infinite negative => cases negative <;> exact ⟨_, _, rfl, by decide⟩
  | nan => exact ⟨_, _, rfl, by decide⟩

theorem reads_null : Reads room .null "null".toList :=
  reads_of_readScalar ⟨_, _, rfl, by decide⟩ fun _ => rfl

theorem reads_boolText (b : Bool) : Reads room (.bool b) (boolText b) := by
  cases b <;> exact reads_of_readScalar ⟨_, _, rfl, by decide⟩ fun _ => rfl

theorem reads_quoted (s : String) : Reads room (.text s) (quotedChars s.toList) := by
  refine ⟨⟨'"', _, rfl, by decide, by decide, by decide⟩, ?_⟩
  intro fuel rest enough ends
  obtain ⟨fuel, rfl⟩ := Nat.exists_eq_add_one_of_ne_zero (n := fuel) (by simp [quotedChars] at enough; omega)
  have read := readText_quoted ('"' :: (s.toList.flatMap escapeChar ++ '"' :: rest)) s rest
  simp [quotedChars, readValue, read, bind, Except.bind, pure, Except.pure]

end Scalar

section Container

variable {room : Nat}

theorem starts_separated {cs : List Char} (h : StartsValue cs) (parts : List (List Char)) :
    StartsValue (separated (cs :: parts)) := by
  obtain ⟨c, tail, rfl, mark⟩ := h
  cases parts with
  | nil => exact ⟨c, tail, List.intercalate_singleton, mark⟩
  | cons part parts =>
    rw [separated, List.intercalate_cons_cons]
    exact ⟨c, _, rfl, mark⟩

theorem separated_cons_cons (cs part : List Char) (parts : List (List Char)) :
    separated (cs :: part :: parts) = cs ++ ',' :: ' ' :: separated (part :: parts) := by
  simp [separated, List.intercalate_cons_cons]

theorem endsNumeral_mark {c : Char} (h : c = ',' ∨ c = ']' ∨ c = '\x7d') (rest : List Char) :
    EndsNumeral (c :: rest) := by
  rcases h with rfl | rfl | rfl <;> exact endsNumeral_cons _ (by decide)

theorem skipSpace_cons {c : Char} (h : isSpace c = true) (cs : List Char) : skipSpace (c :: cs) = skipSpace cs := by
  simp [Json.skipSpace, h]

theorem skipSpace_mark {c : Char} (h : isSpace c = false) (cs : List Char) :
    skipSpace (c :: cs) = c :: cs := by
  simp [skipSpace, h]

theorem readItems_separated {x : Value} {cs : List Char} {xs : List Value} {parts : List (List Char)}
    (first : Reads room x cs) (others : List.Forall₂ (Reads room) xs parts) (fuel : Nat) (rest : List Char)
    (enough : 2 * (separated (cs :: parts)).length + 1 ≤ fuel) :
    readItems fuel room (separated (cs :: parts) ++ ']' :: rest) = .ok (x :: xs, rest) := by
  induction others generalizing x cs fuel with
  | nil =>
    obtain ⟨fuel, rfl⟩ := Nat.exists_eq_add_one_of_ne_zero (n := fuel) (by omega)
    simp only [separated, List.intercalate_singleton] at enough ⊢
    have read := first.read fuel (by omega) (endsNumeral_mark (.inr (.inl rfl)) rest)
    simp only [readItems, read, bind, Except.bind, skipSpace_mark (c := ']') (by decide), if_true]
    rfl
  | @cons y part xs parts second others ih =>
    obtain ⟨fuel, rfl⟩ := Nat.exists_eq_add_one_of_ne_zero (n := fuel) (by omega)
    rw [separated_cons_cons] at enough ⊢
    simp only [List.length_append, List.length_cons] at enough
    have read := first.read fuel (by omega)
      (endsNumeral_mark (.inl rfl) (' ' :: (separated (part :: parts) ++ ']' :: rest)))
    have later := ih second fuel (by omega)
    have next := (starts_separated second.starts parts).skipSpace (']' :: rest)
    simp only [List.append_assoc, List.cons_append, readItems, read, bind, Except.bind,
      skipSpace_mark (c := ',') (by decide), skipSpace_cons (c := ' ') (by decide), next, later]
    rfl

def memberText (key : String) (cs : List Char) : List Char :=
  quotedChars key.toList ++ ':' :: ' ' :: cs

theorem readKey_memberText (key : String) {cs : List Char} (h : StartsValue cs) (rest : List Char) :
    readKey (memberText key cs ++ rest) = .ok (key, cs ++ rest) := by
  have read := readText_quoted ('"' :: (key.toList.flatMap escapeChar ++ '"' :: ':' :: ' ' :: (cs ++ rest)))
    key (':' :: ' ' :: (cs ++ rest))
  simp only [memberText, quotedChars, List.append_assoc, List.cons_append, List.nil_append, readKey, if_true,
    read, bind, Except.bind, skipSpace_mark (c := ':') (by decide), skipSpace_cons (c := ' ')
      (by decide), h.skipSpace]
  rfl

inductive ReadsMembers (room : Nat) : List (Value × Value) → List (List Char) → Prop
  | nil : ReadsMembers room [] []
  | cons {key : String} {v : Value} {cs : List Char} {fs : List (Value × Value)} {parts : List (List Char)}
      (value : Reads room v cs) (others : ReadsMembers room fs parts) :
      ReadsMembers room ((.text key, v) :: fs) (memberText key cs :: parts)

theorem starts_memberText (key : String) (cs : List Char) : StartsValue (memberText key cs) :=
  ⟨'"', _, rfl, by decide, by decide, by decide⟩

theorem readMembers_separated (key : String) {v : Value} {cs : List Char} {fs : List (Value × Value)}
    {parts : List (List Char)} (first : Reads room v cs) (others : ReadsMembers room fs parts) (fuel : Nat)
    (rest : List Char) (enough : 2 * (separated (memberText key cs :: parts)).length + 1 ≤ fuel) :
    readMembers fuel room (separated (memberText key cs :: parts) ++ '\x7d' :: rest) =
      .ok ((.text key, v) :: fs, rest) := by
  -- one unit of fuel goes to the member, which has more than one character beside its value
  induction others generalizing key v cs fuel with
  | nil =>
    obtain ⟨fuel, rfl⟩ := Nat.exists_eq_add_one_of_ne_zero (n := fuel) (by omega)
    simp only [separated, List.intercalate_singleton] at enough ⊢
    have shorter : cs.length ≤ (memberText key cs).length := by simp [memberText]; omega
    have read := first.read fuel (by omega) (endsNumeral_mark (.inr (.inr rfl)) rest)
    simp only [readMembers, readKey_memberText key first.starts, read, bind, Except.bind,
      skipSpace_mark (c := '\x7d') (by decide), if_true]
    rfl
  | @cons key' v' cs' fs parts second others ih =>
    obtain ⟨fuel, rfl⟩ := Nat.exists_eq_add_one_of_ne_zero (n := fuel) (by omega)
    rw [separated_cons_cons] at enough ⊢
    simp only [List.length_append, List.length_cons] at enough
    have shorter : cs.length ≤ (memberText key cs).length := by simp [memberText]; omega
    have read := first.read fuel (by omega)
      (endsNumeral_mark (.inl rfl) (' ' :: (separated (memberText key' cs' :: parts) ++ '\x7d' :: rest)))
    have later := ih key' second fuel (by omega)
    have next := (starts_separated (starts_memberText key' cs') parts).skipSpace ('\x7d' :: rest)
    simp only [List.append_assoc, List.cons_append, readMembers, readKey_memberText key first.starts, read, bind,
      Except.bind, skipSpace_mark (c := ',') (by decide), skipSpace_cons (c := ' ') (by decide), next, later]
    rfl

theorem reads_list {xs : List Value} {parts : List (List Char)} (h : List.Forall₂ (Reads room) xs parts) :
    Reads (room + 1) (.list xs) ('[' :: (separated parts ++ [']'])) := by
  refine ⟨⟨'[', _, rfl, by decide, by decide, by decide⟩, ?_⟩
  intro fuel rest enough ends
  obtain ⟨fuel, rfl⟩ := Nat.exists_eq_add_one_of_ne_zero (n := fuel) (by simp at enough; omega)
  cases h with
  | nil => rfl
  | @cons x cs xs parts first others =>
    simp only [List.length_cons, List.length_append] at enough
    have starts := starts_separated first.starts parts
    have open' : after? [']'] (separated (cs :: parts) ++ ']' :: rest) = none := by
      obtain ⟨c, tail, front, -, other, -⟩ := starts
      simp [front, after?, List.isPrefixOf, other.symm]
    have items := readItems_separated first others fuel rest (by omega)
    simp only [List.cons_append, List.append_assoc, List.nil_append, readValue, starts.skipSpace, open', items]
    rfl

theorem reads_record {fs : List (Value × Value)} {parts : List (List Char)} (h : ReadsMembers room fs parts)
    (dict : Value.IsDict fs) : Reads (room + 1) (.record fs) ('\x7b' :: (separated parts ++ ['\x7d'])) := by
  refine ⟨⟨'\x7b', _, rfl, by decide, by decide, by decide⟩, ?_⟩
  intro fuel rest enough ends
  obtain ⟨fuel, rfl⟩ := Nat.exists_eq_add_one_of_ne_zero (n := fuel) (by simp at enough; omega)
  cases h with
  | nil => rfl
  | @cons key v cs fs parts first others =>
    simp only [List.length_cons, List.length_append] at enough
    have starts := starts_separated (starts_memberText key cs) parts
    have open' : after? ['\x7d'] (separated (memberText key cs :: parts) ++ '\x7d' :: rest) = none := by
      cases parts with
      | nil => rfl
      | cons part parts => rfl
    have members := readMembers_separated key first others fuel rest (by omega)
    simp only [List.cons_append, List.append_assoc, List.nil_append, readValue, starts.skipSpace, open', members]
    rw [← Value.ofPairs_of_isDict dict]
    rfl

end Container

section Native

variable {room : Nat}

theorem exists_encodeItems {xs : List Value} (h : ∀ x ∈ xs, ∃ cs, encodeChars x = .ok cs ∧ Reads room x cs) :
    ∃ parts, encodeItems xs = .ok parts ∧ List.Forall₂ (Reads room) xs parts := by
  induction xs with
  | nil => exact ⟨[], rfl, .nil⟩
  | cons x xs ih =>
    obtain ⟨⟨cs, written, first⟩, others⟩ := List.forall_mem_cons.mp h
    obtain ⟨parts, later, others⟩ := ih others
    refine ⟨cs :: parts, ?_, .cons first others⟩
    rw [encodeItems, written, later]
    rfl

theorem exists_encodeMembers {fs : List (Value × Value)} (texts : ∀ f ∈ fs, ∃ s, f.1 = .text s)
    (values : ∀ f ∈ fs, ∃ cs, encodeChars f.2 = .ok cs ∧ Reads room f.2 cs) :
    ∃ parts, encodeMembers fs = .ok parts ∧ ReadsMembers room fs parts := by
  induction fs with
  | nil => exact ⟨[], rfl, .nil⟩
  | cons f fs ih =>
    obtain ⟨k, v⟩ := f
    obtain ⟨⟨key, rfl⟩, texts'⟩ := List.forall_mem_cons.mp texts
    obtain ⟨⟨cs, written, first⟩, values'⟩ := List.forall_mem_cons.mp values
    obtain ⟨parts, later, others⟩ := ih texts' values'
    refine ⟨memberText key cs :: parts, ?_, .cons first others⟩
    dsimp only at written
    rw [encodeMembers, keyText, written, later]
    rfl

theorem exists_reads_of_native {v : Value} (h : Native room v) :
    ∃ cs, encodeChars v = .ok cs ∧ Reads room v cs := by
  induction h with
  | null => exact ⟨_, by rw [encodeChars], reads_null⟩
  | bool b => exact ⟨_, by rw [encodeChars], reads_boolText b⟩
  | text s => exact ⟨_, by rw [encodeChars], reads_quoted s⟩
  | @int room n short =>
    refine ⟨Numeral.signed n, ?_, reads_signed short⟩
    rw [encodeChars, Numeral.write, short]
    simp [bind, Except.bind, pure, Except.pure]
  | float d => exact ⟨_, by rw [encodeChars], reads_floatText d⟩
  | list items ih =>
    obtain ⟨parts, written, reads⟩ := exists_encodeItems ih
    refine ⟨_, ?_, reads_list reads⟩
    rw [encodeChars, written]
    rfl
  | record dict texts values ih =>
    obtain ⟨parts, written, reads⟩ := exists_encodeMembers texts ih
    refine ⟨_, ?_, reads_record reads dict⟩
    rw [encodeChars, written]
    rfl

theorem exists_encodeChars_of_native {v : Value} (h : Native nestingLimit v) :
    ∃ cs, encodeChars v = .ok cs ∧ decodeChars cs = .ok v := by
  obtain ⟨cs, written, starts, read⟩ := exists_reads_of_native h
  refine ⟨cs, written, ?_⟩
  have plain := read (enough cs) (by unfold enough; omega) endsNumeral_nil
  have front := starts.skipSpace []
  have mark : after? ['\ufeff'] cs = none := by
    obtain ⟨c, tail, rfl, -, -, other⟩ := starts
    simp [after?, List.isPrefixOf, other.symm]
  rw [List.append_nil] at plain front
  rw [decodeChars, readDocument, mark, front, plain]
  rfl

/-- Writing and reading a native value gives it back. -/
theorem exists_encode_of_native {v : Value} (h : Native encodingLimit v) :
    ∃ s, encode v = .ok s ∧ decode s = .ok v := by
  obtain ⟨cs, written, read⟩ := exists_encodeChars_of_native (h.of_depth_le (h.depth_le.trans (by decide)))
  refine ⟨String.ofList cs, ?_, by rw [decode, String.toList_ofList, read]⟩
  rw [encode, if_neg h.depth_le.not_gt, written]
  rfl

end Native

end RecordPipeline.Json
