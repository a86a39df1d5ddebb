import Mathlib.Data.List.DropRight
import Mathlib.Data.List.TakeWhile
import RecordPipeline.Text.Blank
set_option autoImplicit false

namespace RecordPipeline.Text

theorem isBlank_eq_false_of_isDigit {c : Char} (digit : c.isDigit = true) : isBlank c = false := by
  have bounds := Char.isDigit_iff_toNat.mp digit
  simp only [Char.reduceToNat] at bounds
  have apart : ∀ code ∈ blankCodes, code < 48 ∨ 57 < code := by decide
  rw [isBlank, ← Bool.not_eq_true, List.contains_iff_mem]
  intro blank
  have := apart c.toNat blank
  omega

/-- What is left of a text without the blanks around it: they stand on both sides of it and at
neither of its own ends. -/
structure Stripped (cs t : List Char) : Prop where
  around : ∃ front back, cs = front ++ (t ++ back) ∧ (∀ c ∈ front, isBlank c = true) ∧
    ∀ c ∈ back, isBlank c = true
  first : ∀ c, t.head? = some c → isBlank c = false
  last : ∀ c, t.getLast? = some c → isBlank c = false

theorem isBlank_head?_dropWhile {cs : List Char} {c : Char} (h : (cs.dropWhile isBlank).head? = some c) :
    isBlank c = false := by
  have kept := List.head?_dropWhile_not isBlank cs
  rw [h] at kept
  simpa using kept

theorem dropWhile_blank_append {front rest : List Char} (blank : ∀ c ∈ front, isBlank c = true)
    (stop : ∀ c, rest.head? = some c → isBlank c = false) : (front ++ rest).dropWhile isBlank = rest := by
  rw [List.dropWhile_append_of_pos blank]
  cases rest with
  | nil => rfl
  | cons c cs => simp [stop c rfl]

theorem stripped_trimChars (cs : List Char) : Stripped cs (trimChars cs) := by
  have blank (cs : List Char) : ∀ c ∈ cs.takeWhile isBlank, isBlank c = true := fun c => List.mem_takeWhile_imp
  let rest := cs.dropWhile isBlank
  have parts : rest = trimChars cs ++ (rest.reverse.takeWhile isBlank).reverse := by
    rw [trimChars, ← List.reverse_append, List.takeWhile_append_dropWhile, List.reverse_reverse]
  constructor
  case around =>
    refine ⟨cs.takeWhile isBlank, (rest.reverse.takeWhile isBlank).reverse, ?_, blank cs, fun c hc => ?_⟩
    · rw [← parts, List.takeWhile_append_dropWhile]
    · exact blank _ c (List.mem_reverse.mp hc)
  case first =>
    intro c front
    refine @isBlank_head?_dropWhile cs c ?_
    show rest.head? = some c
    rw [parts, List.head?_append, front]
    rfl
  case last =>
    intro c back
    rw [trimChars, List.getLast?_reverse] at back
    exact isBlank_head?_dropWhile back

theorem Stripped.eq_trimChars {cs t : List Char} (h : Stripped cs t) : t = trimChars cs := by
  obtain ⟨⟨front, back, rfl, before, after⟩, first, last⟩ := h
  have behind : ∀ c ∈ back.reverse, isBlank c = true := fun c hc => after c (List.mem_reverse.mp hc)
  cases t with
  | nil =>
    have all : ∀ c ∈ front ++ back, isBlank c = true := by
      simpa [or_imp, forall_and] using ⟨before, after⟩
    rw [List.nil_append, trimChars, List.dropWhile_eq_nil_iff.mpr all]
    rfl
  | cons c cs =>
    have ends : ∀ d, (c :: cs).reverse.head? = some d → isBlank d = false := by
      rw [List.head?_reverse]
      exact last
    rw [trimChars, dropWhile_blank_append before (by simpa using first), List.reverse_append,
      dropWhile_blank_append behind ends, List.reverse_reverse]

theorem Stripped.trimmed {cs t : List Char} (h : Stripped cs t) : Stripped t t :=
  ⟨⟨[], [], by simp, by simp, by simp⟩, h.first, h.last⟩

@[simp] theorem trim_trim (s : String) : trim (trim s) = trim s := by
  have same := (stripped_trimChars s.toList).trimmed.eq_trimChars
  simp only [trim, String.toList_ofList, ← same]

theorem Stripped.mem {cs t : List Char} (h : Stripped cs t) {c : Char} (member : c ∈ t) : c ∈ cs := by
  obtain ⟨⟨front, back, rfl, -, -⟩, -, -⟩ := h
  simp [member]

theorem trimChars_eq_nil_iff {cs : List Char} : trimChars cs = [] ↔ ∀ c ∈ cs, isBlank c = true := by
  constructor
  · intro empty
    obtain ⟨⟨front, back, parts, before, after⟩, -, -⟩ := stripped_trimChars cs
    rw [empty, List.nil_append] at parts
    rw [parts]
    simpa [or_imp, forall_and] using ⟨before, after⟩
  · intro blank
    rw [trimChars, List.dropWhile_eq_nil_iff.mpr blank]
    rfl

theorem trimChars_append_blank {back : List Char} (blank : ∀ c ∈ back, isBlank c = true) (front : List Char) :
    trimChars (front ++ back) = trimChars front := by
  obtain ⟨⟨before, after, parts, first, second⟩, start, stop⟩ := stripped_trimChars front
  have stripped : Stripped (front ++ back) (trimChars front) := by
    refine ⟨⟨before, after ++ back, ?_, first, ?_⟩, start, stop⟩
    · rw [← List.append_assoc (trimChars front), ← List.append_assoc, ← parts]
    · simpa [or_imp, forall_and] using ⟨second, blank⟩
  exact stripped.eq_trimChars.symm

@[simp] theorem trimChars_dropWhile (cs : List Char) : trimChars (cs.dropWhile isBlank) = trimChars cs := by
  rw [trimChars, List.dropWhile_idempotent, ← trimChars]

@[simp] theorem trimChars_rdropWhile (cs : List Char) : trimChars (cs.rdropWhile isBlank) = trimChars cs := by
  have parts : cs.rdropWhile isBlank ++ cs.rtakeWhile isBlank = cs := List.rdropWhile_append_rtakeWhile
  have blank : ∀ c ∈ cs.rtakeWhile isBlank, isBlank c = true := fun c => List.mem_rtakeWhile_imp
  rw [← trimChars_append_blank blank, parts]

/-- Trimming stops on both sides at a character that is not blank. -/
theorem trimChars_append_cons (front back : List Char) {c : Char} (visible : isBlank c = false) :
    trimChars (front ++ c :: back) = front.dropWhile isBlank ++ c :: back.rdropWhile isBlank := by
  have stop (xs ys : List Char) : (xs ++ c :: ys).dropWhile isBlank = xs.dropWhile isBlank ++ c :: ys := by
    rw [List.dropWhile_append]
    split
    · rename_i gone
      rw [List.isEmpty_iff.mp gone, List.dropWhile_cons_of_neg (by simp [visible]), List.nil_append]
    · rfl
  rw [trimChars, stop, List.reverse_append, List.reverse_cons, List.append_assoc, List.singleton_append, stop]
  simp [List.rdropWhile]

theorem stripped_iff {cs t : List Char} : Stripped cs t ↔ t = trimChars cs :=
  ⟨Stripped.eq_trimChars, fun h => h ▸ stripped_trimChars cs⟩

theorem trimChars_of_visible {cs : List Char} (visible : ∀ c ∈ cs, isBlank c = false) : trimChars cs = cs := by
  have stripped : Stripped cs cs := by
    refine ⟨⟨[], [], by simp, by simp, by simp⟩, fun c front => ?_, fun c back => ?_⟩
    · exact visible c (List.mem_of_mem_head? front)
    · exact visible c (List.mem_of_mem_getLast? back)
  exact stripped.eq_trimChars.symm

theorem mem_trimChars {cs : List Char} {c : Char} (member : c ∈ cs) (visible : isBlank c = false) :
    c ∈ trimChars cs := by
  obtain ⟨⟨front, back, parts, before, after⟩, -, -⟩ := stripped_trimChars cs
  rw [parts, List.mem_append, List.mem_append] at member
  rcases member with blank | here | blank
  · exact absurd (before c blank) (by simp [visible])
  · exact here
  · exact absurd (after c blank) (by simp [visible])

end RecordPipeline.Text
