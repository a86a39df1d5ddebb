import Mathlib.Data.List.TakeWhile
import RecordPipeline.Proofs.Outcome
import RecordPipeline.Proofs.Text.Numeral
import RecordPipeline.Version
set_option autoImplicit false

namespace RecordPipeline

namespace Version

open Numeral (digitLimit isRun isRun_iff readRun_of_le readRun_of_lt span_isDigit)

/-- The digit runs of a version: of its major part, and of its minor part if it has one. -/
abbrev Runs := List Char × Option (List Char)

def written : Runs → List Char
  | (major, none) => major
  | (major, some minor) => major ++ '.' :: minor

def ofNaturals (major : Nat) (minor : Option Nat) : Version := ofNumbers major (minor.map Int.ofNat)

structure AreRuns (runs : Runs) : Prop where
  major : isRun runs.1 = true
  minor : ∀ ds ∈ runs.2, isRun ds = true

section Grammar

theorem readRuns_written {runs : Runs} (h : AreRuns runs) : readRuns (written runs) = some runs := by
  obtain ⟨major, minor⟩ := runs
  obtain ⟨nonempty, digits⟩ := isRun_iff.mp h.major
  have some : ¬ major.isEmpty = true := by simpa using nonempty
  cases minor with
  | none =>
    have split := @span_isDigit major [] digits (by simp)
    rw [List.append_nil] at split
    simp only [readRuns, written, split, if_neg some]
  | some minor =>
    have split := @span_isDigit major ('.' :: minor) digits (by rintro c cs ⟨⟩; rfl)
    simp only [readRuns, written, split, if_neg some, if_pos (h.minor minor rfl)]

theorem areRuns_of_readRuns {cs : List Char} {runs : Runs} (h : readRuns cs = some runs) :
    AreRuns runs ∧ cs = written runs := by
  have split : cs.takeWhile Char.isDigit ++ cs.dropWhile Char.isDigit = cs :=
    List.takeWhile_append_dropWhile
  have digits : ∀ c ∈ cs.takeWhile Char.isDigit, c.isDigit = true := fun c hc =>
    List.mem_takeWhile_imp hc
  rw [readRuns, List.span_eq_takeWhile_dropWhile] at h
  simp only at h
  split at h
  · cases h
  · rename_i nonempty
    have major : isRun (cs.takeWhile Char.isDigit) = true :=
      isRun_iff.mpr ⟨by simpa using nonempty, digits⟩
    split at h
    · rename_i rest
      cases h
      rw [rest, List.append_nil] at split
      exact ⟨⟨major, by simp⟩, split.symm⟩
    · rename_i minor rest
      split at h
      · rename_i run
        cases h
        rw [rest] at split
        refine ⟨⟨major, ?_⟩, split.symm⟩
        rintro ds ⟨⟩
        exact run
      · cases h
    · cases h

end Grammar

/-- A value that is the text of a version's runs. -/
def Declares (declared : Value) (runs : Runs) : Prop :=
  ∃ s, declared = .text s ∧ AreRuns runs ∧ s.toList = written runs

theorem Declares.areRuns {declared : Value} {runs : Runs} (h : Declares declared runs) : AreRuns runs := by
  obtain ⟨s, -, are, -⟩ := h
  exact are

theorem Declares.unique {declared : Value} {runs runs' : Runs} (h : Declares declared runs)
    (h' : Declares declared runs') : runs = runs' := by
  obtain ⟨s, rfl, are, text⟩ := h
  obtain ⟨s', same, are', text'⟩ := h'
  cases same
  have read := readRuns_written are
  rw [← text, text', readRuns_written are'] at read
  exact (Option.some.inj read).symm

theorem Declares.exists_shown {declared : Value} {runs : Runs} (h : Declares declared runs) :
    ∃ shown, declared.shown = .ok shown := by
  obtain ⟨s, rfl, -⟩ := h
  exact ⟨Text.quoted s, by rw [Value.shown]⟩

def IsShort (runs : Runs) : Prop :=
  runs.1.length ≤ digitLimit ∧ ∀ ds ∈ runs.2, ds.length ≤ digitLimit

section Parse

variable {declared : Value} {runs : Runs}

theorem ofRuns_of_isShort (h : IsShort runs) :
    ofRuns runs = .ok (ofNaturals (Numeral.value runs.1) (runs.2.map Numeral.value)) := by
  obtain ⟨major, minor⟩ := runs
  cases minor with
  | none =>
    simp only [ofRuns, readRun_of_le h.1]
    rfl
  | some minor =>
    simp only [ofRuns, readRun_of_le h.1, readRun_of_le (h.2 minor rfl)]
    rfl

theorem exists_ofRuns_of_not_isShort (h : ¬ IsShort runs) :
    ∃ n, digitLimit < n ∧ ofRuns runs = .error (.tooLongToRead n) := by
  obtain ⟨major, minor⟩ := runs
  by_cases long : digitLimit < major.length
  · refine ⟨major.length, long, ?_⟩
    cases minor <;> simp only [ofRuns, readRun_of_lt long] <;> rfl
  · have within : major.length ≤ digitLimit := Nat.not_lt.mp long
    cases minor with
    | none => exact absurd ⟨within, by simp⟩ h
    | some minor =>
      have longer : digitLimit < minor.length := by
        refine Nat.not_le.mp fun few => h ⟨within, ?_⟩
        rintro ds ⟨⟩
        exact few
      exact ⟨minor.length, longer, by simp only [ofRuns, readRun_of_le within, readRun_of_lt longer]; rfl⟩

theorem parse_of_declares (h : Declares declared runs) :
    parse declared = (ofRuns runs).mapError .value := by
  obtain ⟨s, rfl, are, text⟩ := h
  simp only [parse, text, readRuns_written are]

theorem parse_of_undeclared (h : ∀ runs, ¬ Declares declared runs) :
    parse declared = .error (malformed declared) := by
  cases declared with
  | text s =>
    cases read : readRuns s.toList with
    | none => simp only [parse, read]
    | some runs =>
      obtain ⟨are, text⟩ := areRuns_of_readRuns read
      exact absurd ⟨s, rfl, are, text⟩ (h runs)
  | _ => rfl

end Parse

end Version

end RecordPipeline
