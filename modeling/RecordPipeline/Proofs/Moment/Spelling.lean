import Mathlib.Data.List.Basic
import RecordPipeline.Proofs.Moment.Parts
set_option autoImplicit false

namespace RecordPipeline

namespace DatePattern

open Numeral (value)
open Timestamp (IsRunOf Parts)

def isSpelled (letter : Char) (ds : List Char) : Bool :=
  (spellings letter).any fun spelling => takeSpelling spelling ds = some (ds, [])

def plainSlot (letter : Char) : Slot :=
  { filler := none, capitals := false, otherCase := false, width := 0, variant := none, letter := some letter,
    source := ['%', letter] }

section Spelling

variable {spelling : Spelling} {ds rest : List Char}

theorem takeSpelling_append (short : spelling.length ≤ ds.length) :
    takeSpelling spelling (ds ++ rest) = (takeSpelling spelling ds).map fun (t, r) => (t, r ++ rest) := by
  induction spelling generalizing ds with
  | nil => rfl
  | cons range others ih =>
    cases ds with
    | nil => cases short
    | cons d ds =>
      have step := ih (Nat.le_of_succ_le_succ short)
      simp only [takeSpelling, List.cons_append, step]
      split
      · simp only [Option.map_map]
        rfl
      · rfl

theorem append_of_takeSpelling {cs t r : List Char} (taken : takeSpelling spelling cs = some (t, r)) :
    t ++ r = cs := by
  induction spelling generalizing cs t with
  | nil =>
    cases taken
    rfl
  | cons range others ih =>
    cases cs with
    | nil => cases taken
    | cons c cs =>
      simp only [takeSpelling] at taken
      split at taken
      · obtain ⟨⟨ds, rest⟩, later, same⟩ := Option.map_eq_some_iff.mp taken
        cases same
        rw [List.cons_append, ih later]
      · cases taken

/-- The first success is any success where all of them are the same. -/
theorem findSome?_eq_ite {α β : Type} {l : List α} {f : α → Option β} {p : α → Bool} {x : Option β}
    (each : ∀ a ∈ l, f a = if p a then x else none) : l.findSome? f = if l.any p then x else none := by
  induction l with
  | nil => rfl
  | cons a l ih =>
    obtain ⟨here, later⟩ := List.forall_mem_cons.mp each
    rw [List.findSome?_cons, List.any_cons, here, ih later]
    cases p a with
    | true => cases x <;> simp
    | false => rfl

end Spelling

section Field

variable {letter mark : Char} {width : Nat} {ds rest : List Char} {ps : List Piece}

theorem toLower_of_isDigit {c : Char} (digit : c.isDigit = true) : c.toLower = c := by
  have last : c.toNat ≤ 57 := (Char.isDigit_iff_toNat.mp digit).2
  have front : ¬ 'A'.val ≤ c.val := by
    rw [UInt32.le_iff_toNat_le]
    exact Nat.not_le.mpr (Nat.lt_of_le_of_lt last (by decide))
  exact dif_neg fun upper => front upper.1

theorem matchPieces_field (run : IsRunOf width ds) (literal : mark.toLower.isDigit = false)
    (wide : ∀ spelling ∈ spellings letter, spelling.length ≤ width) :
    matchPieces (.slot (plainSlot letter) :: .literal mark :: ps) (ds ++ mark :: rest) =
      if isSpelled letter ds then (matchPieces ps rest).map fun (found, rest) => ((letter, value ds) :: found, rest)
      else none := by
  have stop (c : Char) (cs : List Char) (digit : c.isDigit = true) :
      matchPieces (.literal mark :: ps) (c :: cs) = none := by
    have different : ¬ c.toLower = mark.toLower := by
      intro same
      rw [toLower_of_isDigit digit] at same
      rw [← same, digit] at literal
      cases literal
    rw [matchPieces, if_neg different]
  have meet : matchPieces (.literal mark :: ps) (mark :: rest) = matchPieces ps rest := by
    rw [matchPieces, if_pos rfl]
  refine findSome?_eq_ite fun spelling member => ?_
  have short : spelling.length ≤ ds.length := by
    rw [run.length]
    exact wide spelling member
  rw [takeSpelling_append short]
  rcases taken : takeSpelling spelling ds with _ | ⟨t, _ | ⟨c, r⟩⟩
  · simp
  · have whole := append_of_takeSpelling taken
    rw [List.append_nil] at whole
    subst whole
    simp only [Option.map_some, Option.bind_eq_bind, Option.bind_some, List.nil_append, meet, decide_true, if_true]
    cases matchPieces ps rest <;> rfl
  · have whole := append_of_takeSpelling taken
    have digit : c.isDigit = true := run.digits c (by simp [← whole])
    simp [stop c _ digit]

theorem exists_digits (run : IsRunOf 2 ds) : ∃ a b, ds = [a, b] ∧ (48 ≤ a.toNat ∧ a.toNat ≤ 57) ∧
    (48 ≤ b.toNat ∧ b.toNat ≤ 57) ∧ value ds = (a.toNat - 48) * 10 + (b.toNat - 48) := by
  obtain ⟨a, b, rfl⟩ := List.length_eq_two.mp run.length
  obtain ⟨first, others⟩ := List.forall_mem_cons.mp run.digits
  have number : value [a, b] = value [a] * 10 + value [b] := Numeral.value_append [a] [b]
  rw [Numeral.value_singleton, Numeral.value_singleton] at number
  exact ⟨a, b, rfl, Char.isDigit_iff_toNat.mp first, Char.isDigit_iff_toNat.mp (others b (by simp)), number⟩

theorem isSpelled_iff (low high : Nat) (run : IsRunOf 2 ds)
    (range : (letter, low, high) ∈ [('m', 1, 12), ('d', 1, 31), ('H', 0, 23), ('M', 0, 59), ('S', 0, 61)]) :
    isSpelled letter ds = true ↔ low ≤ value ds ∧ value ds ≤ high := by
  obtain ⟨a, b, rfl, digit, digit', number⟩ := exists_digits run
  simp only [List.mem_cons, Prod.mk.injEq, List.not_mem_nil, or_false] at range
  rw [number]
  rcases range with ⟨rfl, rfl, rfl⟩ | ⟨rfl, rfl, rfl⟩ | ⟨rfl, rfl, rfl⟩ | ⟨rfl, rfl, rfl⟩ | ⟨rfl, rfl, rfl⟩ <;>
    simp [isSpelled, spellings, takeSpelling, Char.le_def, UInt32.le_iff_toNat_le] <;> omega

theorem isSpelled_year (run : IsRunOf 4 ds) : isSpelled 'Y' ds = true := by
  obtain ⟨length, digits⟩ := run
  match ds, length with
  | [a, b, c, d], _ =>
    simpa [isSpelled, spellings, takeSpelling, Char.isDigit, Char.le_def, UInt32.le_iff_toNat_le] using digits

/-- Of two digits at the end of a text the slot for seconds takes both if it can, and otherwise only
the first. -/
theorem matchPieces_second (run : IsRunOf 2 ds) :
    matchPieces [.slot (plainSlot 'S')] ds =
      if isSpelled 'S' ds then some ([('S', value ds)], []) else some ([('S', value (ds.take 1))], ds.drop 1) := by
  obtain ⟨a, b, rfl, digit, digit', -⟩ := exists_digits run
  have one : '0' ≤ a ∧ a ≤ '9' := by simpa [Char.le_def, UInt32.le_iff_toNat_le] using digit
  have pair (r r' : Char × Char) : takeSpelling [r, r'] [a, b] =
      if (r.1 ≤ a && a ≤ r.2) && (r'.1 ≤ b && b ≤ r'.2) then some ([a, b], []) else none := by
    cases front : decide (r.1 ≤ a) && decide (a ≤ r.2) <;> simp [takeSpelling, front]
  have single : takeSpelling [('0', '9')] [a, b] = some ([a], [b]) := by simp [takeSpelling, one]
  simp only [matchPieces, plainSlot, isSpelled, spellings, Option.bind_eq_bind, Option.bind_some,
    List.findSome?_cons,
    List.any_cons, pair, single]
  generalize (('6' ≤ a && a ≤ '6') && ('0' ≤ b && b ≤ '1') : Bool) = leap
  generalize (('0' ≤ a && a ≤ '5') && ('0' ≤ b && b ≤ '9') : Bool) = usual
  cases leap <;> cases usual <;> simp

end Field

theorem pieces_pattern : pieces Timestamp.pattern.toList =
    [.slot (plainSlot 'Y'), .literal '-', .slot (plainSlot 'm'), .literal '-', .slot (plainSlot 'd'), .literal 'T',
      .slot (plainSlot 'H'), .literal ':', .slot (plainSlot 'M'), .literal ':', .slot (plainSlot 'S')] := by
  decide

section Clock

variable {p : Parts}

def allSpelled (p : Parts) : Bool :=
  isSpelled 'm' p.month && (isSpelled 'd' p.day && (isSpelled 'H' p.hour && (isSpelled 'M' p.minute &&
    isSpelled 'S' p.second)))

theorem read?_clock (are : p.AreRuns) : read? Timestamp.pattern p.clock =
    if allSpelled p then
      Moment.of? (value p.year) (value p.month) (value p.day) (value p.hour) (value p.minute) (value p.second) 0
    else none := by
  rw [read?, pieces_pattern, Parts.clock, matchPieces_field are.year (by decide) (by decide),
    matchPieces_field are.month (by decide) (by decide), matchPieces_field are.day (by decide) (by decide),
    matchPieces_field are.hour (by decide) (by decide), matchPieces_field are.minute (by decide) (by decide),
    matchPieces_second are.second, isSpelled_year are.year, allSpelled]
  cases isSpelled 'm' p.month
  case false => rfl
  cases isSpelled 'd' p.day
  case false => rfl
  cases isSpelled 'H' p.hour
  case false => rfl
  cases isSpelled 'M' p.minute
  case false => rfl
  cases isSpelled 'S' p.second
  case true => rfl
  have left : (p.second.drop 1).isEmpty = false := by
    rw [List.isEmpty_eq_false_iff, ne_eq, List.drop_eq_nil_iff, are.second.length]
    decide
  show (if (p.second.drop 1).isEmpty = true then _ else none) = none
  rw [left]
  rfl

theorem allSpelled_of_areReal (are : p.AreRuns) (real : p.AreReal) : allSpelled p = true := by
  obtain ⟨-, month, ⟨first, length, listed, last⟩, hour, minute, second⟩ := real
  have longest : length ≤ 31 := by
    rw [Calendar.monthLengths_getElem? month.1 month.2] at listed
    cases listed
    exact Calendar.daysInMonth_le _ _
  simp only [allSpelled, Bool.and_eq_true]
  exact ⟨(isSpelled_iff 1 12 are.month (by simp)).mpr month,
    (isSpelled_iff 1 31 are.day (by simp)).mpr ⟨first, by omega⟩,
    (isSpelled_iff 0 23 are.hour (by simp)).mpr ⟨by omega, hour⟩,
    (isSpelled_iff 0 59 are.minute (by simp)).mpr ⟨by omega, minute⟩,
    (isSpelled_iff 0 61 are.second (by simp)).mpr ⟨by omega, by omega⟩⟩

end Clock

end DatePattern

namespace Timestamp

open Numeral (value)

theorem accepts_text_iff {s : String} : accepts (.text s) = true ↔ NamesMoment s.toList := by
  rw [accepts, Bool.and_eq_true, hasShape_iff]
  constructor
  · rintro ⟨⟨p, are, written⟩, named⟩
    rw [written, Parts.take_written are, DatePattern.read?_clock are] at named
    split at named
    · exact ⟨p, are, (isSome_of?_iff are (by decide)).mp named, written⟩
    · cases named
  · rintro ⟨p, are, real, written⟩
    refine ⟨⟨p, are, written⟩, ?_⟩
    rw [written, Parts.take_written are, DatePattern.read?_clock are,
      if_pos (DatePattern.allSpelled_of_areReal are real)]
    exact (isSome_of?_iff are (by decide)).mpr real

example : (["2000-02-29T00:00:00.000Z", "1900-02-29T00:00:00.000Z", "2016-12-31T23:59:60.000Z"].map fun s =>
    accepts (.text s)) = [true, false, false] := by decide

end Timestamp

end RecordPipeline
