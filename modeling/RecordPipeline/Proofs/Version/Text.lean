import Mathlib.Data.Int.CharZero
import RecordPipeline.Proofs.Version.Grammar
import RecordPipeline.Text.Split
set_option autoImplicit false

namespace RecordPipeline.Version

open Numeral (digitLimit digits value withoutZeros)
open Text (join splitAll)

/-- A text without the zeros at the front of the runs between its points. -/
def plainForm (s : String) : String :=
  String.ofList (join '.' ((splitAll '.' s.toList).map withoutZeros))

def shorten (runs : Runs) : Runs := (withoutZeros runs.1, runs.2.map withoutZeros)

def runsOf (major : Nat) (minor : Option Nat) : Runs := (digits major, minor.map digits)

section Runs

variable {runs runs' : Runs}

theorem splitAll_written (are : AreRuns runs) : splitAll '.' (written runs) = runs.1 :: runs.2.toList := by
  obtain ⟨major, minor⟩ := runs
  have pointless := not_mem_of_isRun are.major
  cases minor with
  | none => exact Text.splitAll_of_not_mem '.' major pointless
  | some minor =>
    have rest := Text.splitAll_of_not_mem '.' minor (not_mem_of_isRun (are.minor minor rfl))
    simp [written, Text.splitAll_append '.' major minor pointless, rest]

theorem join_runs (runs : Runs) : join '.' (runs.1 :: runs.2.toList) = written runs := by
  obtain ⟨major, minor⟩ := runs
  cases minor <;> rfl

theorem written_inj (are : AreRuns runs) (are' : AreRuns runs') : written runs = written runs' ↔ runs = runs' := by
  constructor
  · intro same
    have read := readRuns_written are
    rw [same, readRuns_written are'] at read
    exact (Option.some.inj read).symm
  · exact congrArg written

theorem areRuns_shorten (are : AreRuns runs) : AreRuns (shorten runs) := by
  refine ⟨Numeral.isRun_withoutZeros are.major, fun ds member => ?_⟩
  obtain ⟨ds, there, rfl⟩ := Option.map_eq_some_iff.mp member
  exact Numeral.isRun_withoutZeros (are.minor ds there)

theorem shorten_eq_self_iff (runs : Runs) : shorten runs = runs ↔
    ∀ ds ∈ runs.1 :: runs.2.toList, 2 ≤ ds.length → ds.head? ≠ some '0' := by
  obtain ⟨major, minor⟩ := runs
  cases minor <;> simp [shorten, Numeral.withoutZeros_eq_self_iff]

theorem plainForm_of_declares {s : String} (h : Declares (.text s) runs) :
    plainForm s = String.ofList (written (shorten runs)) := by
  obtain ⟨t, same, are, text⟩ := h
  cases same
  have mapped : (runs.1 :: runs.2.toList).map withoutZeros = (shorten runs).1 :: (shorten runs).2.toList := by
    obtain ⟨major, minor⟩ := runs
    cases minor <;> rfl
  rw [plainForm, text, splitAll_written are, mapped, join_runs]

end Runs

section Numbers

variable {major : Nat} {minor : Option Nat} {runs : Runs}

theorem areRuns_runsOf (major : Nat) (minor : Option Nat) : AreRuns (runsOf major minor) := by
  refine ⟨Numeral.isRun_digits major, fun ds member => ?_⟩
  obtain ⟨n, -, rfl⟩ := Option.map_eq_some_iff.mp member
  exact Numeral.isRun_digits n

theorem runsOf_inj {major' : Nat} {minor' : Option Nat} :
    runsOf major minor = runsOf major' minor' ↔ major = major' ∧ minor = minor' := by
  rw [runsOf, runsOf, Prod.mk.injEq, Numeral.digits_inj, Option.map_inj_right fun _ _ => Numeral.digits_inj.mp]

theorem isShort_runsOf_iff : IsShort (runsOf major minor) ↔
    (digits major).length ≤ digitLimit ∧ ∀ n ∈ minor, (digits n).length ≤ digitLimit := by
  cases minor <;> simp [IsShort, runsOf]

theorem ofNaturals_runsOf (major : Nat) (minor : Option Nat) :
    ofNaturals (value (runsOf major minor).1) ((runsOf major minor).2.map value) = ofNaturals major minor := by
  cases minor <;> simp [runsOf]

theorem equal_ofNaturals (major : Nat) (minor : Option Nat) (major' : Nat) (minor' : Option Nat) :
    (ofNaturals major minor).equal (ofNaturals major' minor') = .ok (decide (major = major' ∧ minor = minor')) := by
  rw [ofNaturals, ofNaturals, equal_ofNumbers, Bool.decide_and]
  cases minor <;> cases minor' <;> simp

theorem runsOf_value (are : AreRuns runs) : runsOf (value runs.1) (runs.2.map value) = shorten runs := by
  obtain ⟨major, minor⟩ := runs
  have first := Numeral.digits_value are.major
  cases minor with
  | none => simp [runsOf, shorten, first]
  | some minor => simp [runsOf, shorten, first, Numeral.digits_value (are.minor minor rfl)]

theorem isShort_runsOf (short : IsShort runs) (are : AreRuns runs) :
    IsShort (runsOf (value runs.1) (runs.2.map value)) := by
  rw [runsOf_value are]
  refine ⟨(Numeral.length_withoutZeros_le runs.1).trans short.1, fun ds member => ?_⟩
  obtain ⟨ds, there, rfl⟩ := Option.map_eq_some_iff.mp member
  exact (Numeral.length_withoutZeros_le ds).trans (short.2 ds there)

theorem text_ofNaturals (short : IsShort (runsOf major minor)) :
    (ofNaturals major minor).text = .ok (String.ofList (written (runsOf major minor))) := by
  have first : (Value.int major).plain = _ := Numeral.write_natural short.1
  cases minor with
  | none => exact first
  | some n =>
    have second : (Value.int n).plain = _ := Numeral.write_natural (short.2 (digits n) rfl)
    have joined : String.ofList (written (runsOf major (some n))) =
        String.ofList (digits major) ++ "." ++ String.ofList (digits n) := by
      simp [written, runsOf, String.append_assoc]
    simp only [ofNaturals, ofNumbers, Option.map_some, text, first, Int.ofNat_eq_natCast, second, joined]
    rfl

theorem declares_runsOf (major : Nat) (minor : Option Nat) :
    Declares (.text (String.ofList (written (runsOf major minor)))) (runsOf major minor) :=
  ⟨_, rfl, areRuns_runsOf major minor, String.toList_ofList⟩

theorem parse_written (short : IsShort (runsOf major minor)) :
    parse (.text (String.ofList (written (runsOf major minor)))) = .ok (ofNaturals major minor) :=
  parse_eq_ok_iff.mpr ⟨_, declares_runsOf major minor, short, (ofNaturals_runsOf major minor).symm⟩

end Numbers

section Parsed

variable {s s' : String} {v v' : Version}

theorem text_of_parse (read : parse (.text s) = .ok v) : v.text = .ok (plainForm s) := by
  obtain ⟨runs, declares, short, rfl⟩ := parse_eq_ok_iff.mp read
  have are := declares.areRuns
  rw [text_ofNaturals (isShort_runsOf short are), runsOf_value are, plainForm_of_declares declares]

theorem plainForm_eq_self_iff (read : parse (.text s) = .ok v) :
    plainForm s = s ↔ ∀ ds ∈ splitAll '.' s.toList, 2 ≤ ds.length → ds.head? ≠ some '0' := by
  obtain ⟨runs, declares, -, -⟩ := parse_eq_ok_iff.mp read
  obtain ⟨t, same, are, text⟩ := id declares
  cases same
  rw [plainForm_of_declares declares, text, splitAll_written are, ← shorten_eq_self_iff,
    ← written_inj (areRuns_shorten are) are, ← text]
  constructor
  · intro same
    rw [← same, String.toList_ofList]
  · intro same
    rw [same, String.ofList_toList]

theorem equal_of_parse (read : parse (.text s) = .ok v) (read' : parse (.text s') = .ok v') :
    v.equal v' = .ok (decide (plainForm s = plainForm s')) := by
  obtain ⟨runs, declares, -, rfl⟩ := parse_eq_ok_iff.mp read
  obtain ⟨runs', declares', -, rfl⟩ := parse_eq_ok_iff.mp read'
  have plain : plainForm s = plainForm s' ↔ value runs.1 = value runs'.1 ∧
    runs.2.map value = runs'.2.map value := by
    rw [plainForm_of_declares declares, plainForm_of_declares declares', String.ofList_inj,
      written_inj (areRuns_shorten declares.areRuns) (areRuns_shorten declares'.areRuns),
      ← runsOf_value declares.areRuns, ← runsOf_value declares'.areRuns, runsOf_inj]
  simp only [equal_ofNaturals, plain]

end Parsed

/-- A version of numbers within the digit limit is read back from its text. What is read from a text
is written without the zeros at the front of its runs, and as it came exactly if there are none; and
two texts are read as equal versions exactly if they are the same without those zeros. -/
theorem text_round_trips :
    (∀ major minor, (digits major).length ≤ digitLimit → (∀ n ∈ minor, (digits n).length ≤ digitLimit) →
      ∃ s, (ofNaturals major minor).text = .ok s ∧ parse (.text s) = .ok (ofNaturals major minor) ∧
        (ofNaturals major minor).equal (ofNaturals major minor) = .ok true) ∧
    (∀ s v, parse (.text s) = .ok v → v.text = .ok (plainForm s) ∧
      (v.text = .ok s ↔ ∀ ds ∈ splitAll '.' s.toList, 2 ≤ ds.length → ds.head? ≠ some '0')) ∧
    ∀ s s' v v', parse (.text s) = .ok v → parse (.text s') = .ok v' →
      v.equal v' = .ok (decide (plainForm s = plainForm s')) := by
  refine ⟨fun major minor short short' => ?_, fun s v read => ?_, fun _ _ _ _ => equal_of_parse⟩
  · have within := isShort_runsOf_iff.mpr ⟨short, short'⟩
    have self : (ofNaturals major minor).equal (ofNaturals major minor) = .ok true := by simp [equal_ofNaturals]
    exact ⟨_, text_ofNaturals within, parse_written within, self⟩
  · have written := text_of_parse read
    exact ⟨written, by rw [written, Except.ok.injEq, plainForm_eq_self_iff read]⟩

theorem text_round_trips_zeros : ∃ v v', parse (.text "0.010") = .ok v ∧ parse (.text "0.10") = .ok v' ∧
    v.text = .ok "0.10" ∧ v'.text = .ok "0.10" ∧ v.equal v' = .ok true ∧
    ∃ s, (ofNaturals 0 (some 10)).text = .ok s ∧ parse (.text s) = .ok (ofNaturals 0 (some 10)) := by
  obtain ⟨back, plain, equal⟩ := text_round_trips
  obtain ⟨s, written, readBack, -⟩ := back 0 (some 10) (by decide) (by rintro n ⟨⟩; decide)
  have read : parse (.text "0.010") = .ok (ofNaturals 0 (some 10)) := rfl
  have read' : parse (.text "0.10") = .ok (ofNaturals 0 (some 10)) := rfl
  have form : plainForm "0.010" = "0.10" := rfl
  have form' : plainForm "0.10" = "0.10" := rfl
  have text := (plain _ _ read).1
  have text' := (plain _ _ read').1
  have same := equal _ _ _ _ read read'
  rw [form] at text same
  rw [form'] at text' same
  exact ⟨_, _, read, read', text, text', same, s, written, readBack⟩

end RecordPipeline.Version
