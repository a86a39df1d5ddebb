import RecordPipeline.Json.Quoted
set_option autoImplicit false

namespace RecordPipeline

theorem Text.hex_succ {k : Nat} (positive : 0 < k) (n : Nat) :
    hex (k + 1) n = hex k (n / 16) ++ [(n % 16).digitChar] := by
  obtain ⟨k, rfl⟩ := Nat.exists_eq_add_one_of_ne_zero (Nat.ne_of_gt positive)
  by_cases few : n < 16
  · rw [Nat.div_eq_of_lt few, Nat.mod_eq_of_lt few, hex, hex, Nat.toDigits_of_lt_base few, Nat.toDigits_zero]
    simp [List.replicate_succ']
  · rw [hex, hex, Nat.toDigits_of_base_le (by decide) (by omega)]
    simp

theorem Text.hex_four {n : Nat} (h : n < 0x10000) :
    hex 4 n = [(n / 0x1000).digitChar, (n / 0x100 % 16).digitChar, (n / 0x10 % 16).digitChar,
      (n % 16).digitChar] := by
  have last : hex 1 (n / 0x1000) = [(n / 0x1000).digitChar] := by
    rw [hex, Nat.toDigits_of_lt_base (by omega)]
    rfl
  rw [hex_succ (by decide), hex_succ (by decide), hex_succ (by decide)]
  simp only [Nat.div_div_eq_div_mul, last]
  rfl

namespace Json

theorem hexDigit?_digitChar : ∀ n < 16, hexDigit? n.digitChar = some n := by decide

variable (opening : List Char)

theorem readUnits_unitEscape {u : Nat} (small : u < 0x10000) {rest : List Char} (more : rest ≠ []) :
    readUnits opening .plain (unitEscape u ++ rest) =
      (readUnits opening .plain rest).map fun r => (u :: r.1, r.2) := by
  have digits (n : Nat) : hexDigit? (n % 16).digitChar = some (n % 16) :=
    hexDigit?_digitChar _ (Nat.mod_lt n (by decide))
  have lead : hexDigit? (u / 0x1000).digitChar = some (u / 0x1000) := hexDigit?_digitChar _ (by omega)
  have sum : 16 * (16 * (16 * (u / 0x1000) + u / 0x100 % 16) + u / 0x10 % 16) + u % 16 = u := by omega
  rw [unitEscape, Text.hex_four small]
  simp [readUnits, digits, lead, sum, more]

theorem toNat_valid (c : Char) : c.toNat < 0xd800 ∨ 0xdfff < c.toNat ∧ c.toNat < 0x110000 := c.valid

theorem readUnits_units (c : Char) {rest : List Char} (more : rest ≠ []) :
    readUnits opening .plain ((units c).flatMap unitEscape ++ rest) =
      (readUnits opening .plain rest).map fun r => (units c ++ r.1, r.2) := by
  have valid := toNat_valid c
  unfold units
  split
  · rename_i small
    simp only [List.flatMap_cons, List.flatMap_nil, List.append_nil]
    exact readUnits_unitEscape opening small more
  · have more' (u : Nat) : unitEscape u ++ rest ≠ [] := List.cons_ne_nil _ _
    simp only [List.flatMap_cons, List.flatMap_nil, List.append_nil, List.append_assoc]
    rw [readUnits_unitEscape opening (by omega) (more' _), readUnits_unitEscape opening (by omega) more]
    cases readUnits opening .plain rest <;> rfl

theorem readUnits_escapeChar (c : Char) {rest : List Char} (more : rest ≠ []) :
    readUnits opening .plain (escapeChar c ++ rest) =
      (readUnits opening .plain rest).map fun r => (units c ++ r.1, r.2) := by
  have short : ∀ e ∈ shortEscapes, e.1 ≠ 'u' ∧ shortEscapes.lookup e.1 = some e.2 ∧
      units e.2 = [e.2.toNat] := by decide
  unfold escapeChar
  split
  · rename_i quote
    subst quote
    rfl
  split
  · rename_i backslash
    subst backslash
    rfl
  split
  · rename_i quote backslash plain
    simp only [isPlain, Bool.and_eq_true, decide_eq_true_eq] at plain
    have below : ¬ c.toNat < 0x20 := by omega
    have unit : units c = [c.toNat] := if_pos (by omega)
    simp [readUnits, quote, backslash, below, unit]
  split
  · rename_i e found
    obtain ⟨other, meant, unit⟩ := short e (List.mem_of_find?_eq_some found)
    have same : e.2 = c := by simpa using List.find?_some found
    simp [readUnits, other, meant, ← same, unit]
  · exact readUnits_units opening c more

theorem readUnits_quoted (cs rest : List Char) :
    readUnits opening .plain (cs.flatMap escapeChar ++ '"' :: rest) = .ok (cs.flatMap units, rest) := by
  induction cs with
  | nil => rfl
  | cons c cs ih =>
    rw [List.flatMap_cons, List.append_assoc, readUnits_escapeChar opening c (by simp), ih]
    rfl

theorem ofUnits?_cons {u : Nat} (high : isHigh u = false) (low : isLow u = false) (us : List Nat) :
    ofUnits? (u :: us) = (ofUnits? us).map (Char.ofNat u :: ·) := by
  cases us with
  | nil => simp [ofUnits?, ofUnit?, high, low]
  | cons v us =>
    simp only [ofUnits?, ofUnit?, high, low, Bool.false_and, Bool.or_self, Bool.false_eq_true, if_false]
    cases ofUnits? (v :: us) <;> rfl

theorem ofUnits?_units (c : Char) (us : List Nat) : ofUnits? (units c ++ us) = (ofUnits? us).map (c :: ·) := by
  have valid := toNat_valid c
  unfold units
  split
  · have single : isHigh c.toNat = false ∧ isLow c.toNat = false := by
      simp [isHigh, isLow]
      omega
    rw [List.singleton_append, ofUnits?_cons single.1 single.2, Char.ofNat_toNat]
  · rename_i large
    have pair : isHigh (0xd800 + (c.toNat - 0x10000) / 0x400) = true ∧
        isLow (0xdc00 + (c.toNat - 0x10000) % 0x400) = true := by
      simp [isHigh, isLow]
      omega
    have code : 0x10000 + (0xd800 + (c.toNat - 0x10000) / 0x400 - 0xd800) * 0x400 +
        (0xdc00 + (c.toNat - 0x10000) % 0x400 - 0xdc00) = c.toNat := by omega
    simp only [List.cons_append, List.nil_append, ofUnits?, pair, Bool.and_self, if_true, code,
      Char.ofNat_toNat]
    cases ofUnits? us <;> rfl

theorem ofUnits?_flatMap_units (cs : List Char) : ofUnits? (cs.flatMap units) = some cs := by
  induction cs with
  | nil => rfl
  | cons c cs ih =>
    rw [List.flatMap_cons, ofUnits?_units, ih]
    rfl

theorem readText_quoted (s : String) (rest : List Char) :
    readText opening (s.toList.flatMap escapeChar ++ '"' :: rest) = .ok (s, rest) := by
  simp [readText, readUnits_quoted, ofUnits?_flatMap_units, bind, Except.bind, pure, Except.pure]

end Json

end RecordPipeline
