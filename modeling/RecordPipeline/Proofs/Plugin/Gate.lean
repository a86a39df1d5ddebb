import Mathlib.Data.Int.CharZero
import RecordPipeline.Plugin
import RecordPipeline.Proofs.Version.Text
set_option autoImplicit false

namespace RecordPipeline

theorem Value.exists_plain_of_shown {v : Value} {shown : String} (h : v.shown = .ok shown) :
    ∃ plain, v.plain = .ok plain := by
  cases v with
  | text s => exact ⟨s, rfl⟩
  | decimal d => exact ⟨d.text, rfl⟩
  | fraction r =>
    rw [Value.shown] at h
    obtain ⟨num, written, h⟩ := exists_of_bind_eq_ok h
    obtain ⟨den, written', -⟩ := exists_of_bind_eq_ok h
    simp only [plain, fractionText, written, written']
    split
    · exact ⟨num, rfl⟩
    · exact ⟨_, rfl⟩
  | _ => exact ⟨shown, h⟩

namespace Version

open Numeral (digitLimit value)

/-- Compatibility with a host in numbers: the majors are equal, and the minors are if both have one. -/
def Agrees (runs : Runs) (major : Nat) (minor : Option Nat) : Prop :=
  value runs.1 = major ∧ ∀ ds ∈ runs.2, ∀ n ∈ minor, value ds = n

theorem exists_compatible_of_runs (runs : Runs) (major : Nat) (minor : Option Nat) :
    ∃ same, (ofNaturals (value runs.1) (runs.2.map value)).compatible (ofNaturals major minor) =
        .ok same ∧ (same = true ↔ Agrees runs major minor) := by
  refine ⟨_, compatible_ofNumbers _ _ _ _, ?_⟩
  obtain ⟨ds, minor'⟩ := runs
  cases minor' <;> cases minor <;> simp [Agrees]

/-- What the gate needs of a declared value: no digit run beyond the limit, and a form to show it in. -/
structure Readable (declared : Value) : Prop where
  short : ∀ runs, Declares declared runs → IsShort runs
  shown : ∃ shown, declared.shown = .ok shown

end Version

namespace Activator

open Numeral (digitLimit)
open Version (Agrees Declares IsShort Readable Runs)

def Admits (a : Activator) (declared : Value) : Prop :=
  ∃ v same, Version.parse declared = .ok v ∧ v.compatible a.host = .ok same ∧
    (same = true ∨ a.enforce = false)

theorem check_eq_ok_iff {host : Version} {declared : Value} {same : Bool} :
    check host declared = .ok same ↔
      ∃ v, Version.parse declared = .ok v ∧ v.compatible host = .ok same := by
  constructor
  · intro h
    obtain ⟨v, parsed, compared⟩ := exists_of_bind_eq_ok h
    exact ⟨v, parsed, eq_ok_of_mapError_eq_ok compared⟩
  · rintro ⟨v, parsed, compared⟩
    simp only [check, parsed, bind, Except.bind, compared]
    rfl

theorem activate_eq_ok_iff {a : Activator} {d d' : Descriptor} :
    (a.activate d).2 = .ok d' ↔ d' = d ∧ a.Admits d.version := by
  have refused (r : Except ValueFault Rejection) : reject r ≠ .ok d' := by
    cases r <;> simp [reject]
  rcases checked : check a.host d.version with fault | same
  · have none : ¬ a.Admits d.version := by
      rintro ⟨v, same, parsed, compared, -⟩
      rw [check_eq_ok_iff.mpr ⟨v, parsed, compared⟩] at checked
      cases checked
    cases fault <;> simp [activate, checked, none, refused]
  · obtain ⟨v, parsed, compared⟩ := check_eq_ok_iff.mp checked
    have admits : a.Admits d.version ↔ same = true ∨ a.enforce = false := by
      constructor
      · rintro ⟨v', same', parsed', compared', admitted⟩
        cases parsed.symm.trans parsed'
        cases compared.symm.trans compared'
        exact admitted
      · exact fun admitted => ⟨v, same, parsed, compared, admitted⟩
    rw [admits]
    cases same with
    | true =>
      simp only [activate, checked, Except.ok.injEq, true_or, and_true]
      exact eq_comm
    | false =>
      cases enforce : a.enforce with
      | true => simp [activate, checked, enforce, refused]
      | false =>
        simp only [activate, checked, enforce, Bool.false_eq_true, if_false, Except.ok.injEq, or_true,
          and_true]
        exact eq_comm

section Outcome

variable {a : Activator} {d : Descriptor} {runs : Runs} {major : Nat} {minor : Option Nat}

theorem exists_check_of_declares (host : a.host = .ofNaturals major minor)
    (declares : Declares d.version runs) (short : IsShort runs) :
    ∃ same, check a.host d.version = .ok same ∧ (same = true ↔ Agrees runs major minor) := by
  obtain ⟨same, compared, agrees⟩ := Version.exists_compatible_of_runs runs major minor
  refine ⟨same, ?_, agrees⟩
  simp only [check, Version.parse_of_declares declares, Version.ofRuns_of_isShort short, host]
  simp only [Except.mapError, bind, Except.bind, compared]

theorem activate_of_admitted (host : a.host = .ofNaturals major minor)
    (declares : Declares d.version runs) (short : IsShort runs)
    (admitted : Agrees runs major minor ∨ a.enforce = false) : (a.activate d).2 = .ok d := by
  obtain ⟨same, checked, agrees⟩ := exists_check_of_declares host declares short
  cases same with
  | true => simp only [activate, checked]
  | false =>
    have apart : ¬ Agrees runs major minor := fun h => Bool.false_ne_true (agrees.mpr h)
    simp [activate, checked, admitted.resolve_left apart]

theorem exists_rejection_of_incompatible {name hostText : String}
    (host : a.host = .ofNaturals major minor) (named : d.name = .text name)
    (written : a.host.text = .ok hostText) (declares : Declares d.version runs) (short : IsShort runs)
    (apart : ¬ Agrees runs major minor) (enforce : a.enforce = true) :
    ∃ r, (a.activate d).2 = .error (.rejected r) ∧ r.cause = none := by
  obtain ⟨same, checked, agrees⟩ := exists_check_of_declares host declares short
  obtain rfl : same = false := by simpa using mt agrees.mp apart
  obtain ⟨s, text, -⟩ := declares
  rw [text] at checked
  simp only [activate, checked, enforce, if_true, incompatibleRejection, named, text, written]
  refine ⟨_, rfl, ?_⟩
  rfl

theorem exists_rejection_of_undeclared {name hostText shown : String} (named : d.name = .text name)
    (written : a.host.text = .ok hostText) (undeclared : ∀ runs, ¬ Declares d.version runs)
    (seen : d.version.shown = .ok shown) :
    ∃ r, (a.activate d).2 = .error (.rejected r) ∧ r.cause = some (.malformed d.version shown) := by
  obtain ⟨plain, text⟩ := Value.exists_plain_of_shown seen
  have checked : check a.host d.version = .error (.malformed d.version shown) := by
    simp only [check, Version.parse_of_undeclared undeclared, Version.malformed, seen]
    rfl
  simp only [activate, checked, malformedRejection, named, text, written]
  refine ⟨_, rfl, ?_⟩
  rfl

theorem exists_fault_of_not_readable (unreadable : ¬ Readable d.version) :
    ∃ fault, (a.activate d).2 = .error (.value fault) := by
  suffices ∃ fault, check a.host d.version = .error (.value fault) by
    obtain ⟨fault, checked⟩ := this
    exact ⟨fault, by simp only [activate, checked]⟩
  by_cases declares : ∃ runs, Declares d.version runs
  · obtain ⟨runs, declares⟩ := declares
    have long : ¬ IsShort runs := by
      intro short
      refine unreadable ⟨fun runs' declares' => ?_, declares.exists_shown⟩
      exact declares.unique declares' ▸ short
    obtain ⟨n, -, unread⟩ := Version.exists_ofRuns_of_not_isShort long
    exact ⟨.tooLongToRead n, by simp only [check, Version.parse_of_declares declares, unread]; rfl⟩
  · have undeclared : ∀ runs, ¬ Declares d.version runs := not_exists.mp declares
    cases seen : d.version.shown with
    | ok shown => exact absurd ⟨fun runs h => absurd h (undeclared runs), shown, seen⟩ unreadable
    | error fault =>
      exact ⟨fault, by
        simp only [check, Version.parse_of_undeclared undeclared, Version.malformed, seen]; rfl⟩

end Outcome

/-- The gate lets a plugin in, as it is, exactly when it declares a version that agrees with the
host or need not, and rejects every other one, for the version itself exactly when it declares none.
-/
structure Decides (a : Activator) (d : Descriptor) (major : Nat) (minor : Option Nat) : Prop where
  admitted : (a.activate d).2 = .ok d ↔
    ∃ runs, Declares d.version runs ∧ (Agrees runs major minor ∨ a.enforce = false)
  rejected : (a.activate d).2 ≠ .ok d → ∃ r, (a.activate d).2 = .error (.rejected r) ∧
    ((∃ shown, r.cause = some (.malformed d.version shown)) ↔ ¬ ∃ runs, Declares d.version runs)

theorem activate_decides_iff {a : Activator} {d : Descriptor} {name : String} {major : Nat}
    {minor : Option Nat} (named : d.name = .text name)
    (host : a.host = .ofNaturals major minor)
    (short : (Numeral.digits major).length ≤ digitLimit)
    (short' : ∀ n ∈ minor, (Numeral.digits n).length ≤ digitLimit) :
    (a.Decides d major minor ↔ Readable d.version) ∧
      (¬ Readable d.version → ∃ fault, (a.activate d).2 = .error (.value fault)) := by
  have written := Version.text_ofNaturals (Version.isShort_runsOf_iff.mpr ⟨short, short'⟩)
  rw [← host] at written
  refine ⟨⟨?_, ?_⟩, exists_fault_of_not_readable⟩
  · intro decides
    by_contra unreadable
    obtain ⟨fault, escapes⟩ := exists_fault_of_not_readable (a := a) unreadable
    obtain ⟨r, rejected, -⟩ := decides.rejected (by rw [escapes]; simp)
    rw [escapes] at rejected
    cases rejected
  · intro readable
    by_cases declares : ∃ runs, Declares d.version runs
    · obtain ⟨runs, declares⟩ := declares
      have within := readable.short runs declares
      by_cases admitted : Agrees runs major minor ∨ a.enforce = false
      · have done := activate_of_admitted host declares within admitted
        exact ⟨iff_of_true done ⟨runs, declares, admitted⟩, fun h => absurd done h⟩
      · obtain ⟨apart, enforce⟩ := not_or.mp admitted
        obtain ⟨r, rejected, cause⟩ := exists_rejection_of_incompatible host named written declares
          within apart (by simpa using enforce)
        refine ⟨iff_of_false (by simp [rejected]) ?_, fun _ => ⟨r, rejected, ?_⟩⟩
        · rintro ⟨runs', declares', admitted'⟩
          exact admitted (declares.unique declares' ▸ admitted')
        · exact iff_of_false (by simp [cause]) (not_not_intro ⟨runs, declares⟩)
    · obtain ⟨shown, seen⟩ := readable.shown
      obtain ⟨r, rejected, cause⟩ :=
        exists_rejection_of_undeclared named written (not_exists.mp declares) seen
      refine ⟨iff_of_false (by simp [rejected]) ?_, fun _ => ⟨r, rejected, ?_⟩⟩
      · rintro ⟨runs, h, -⟩
        exact declares ⟨runs, h⟩
      · exact iff_of_true ⟨shown, cause⟩ declares

theorem activate_decides_current :
    let a : Activator := { enforce := true }
    let d : Descriptor :=
      { pluginId := .text "mapper", name := .text "field_mapping", version := .text "2.1" }
    a.Decides d 2 (some 1) := by
  intro a d
  have declares : Declares d.version (['2'], some ['1']) :=
    ⟨"2.1", rfl, Version.areRuns_of_readRuns (by decide)⟩
  have within : IsShort (['2'], some ['1']) := ⟨by decide, by rintro ds ⟨⟩; decide⟩
  have few : ∀ n ∈ some 1, (Numeral.digits n).length ≤ digitLimit := by
    rintro n ⟨⟩
    decide
  have iff := (@activate_decides_iff a d _ 2 (some 1) rfl rfl (by decide) few).1
  exact iff.mpr ⟨fun runs h => h.unique declares ▸ within, declares.exists_shown⟩

/-- A run of too many digits is a version's, and whether versions are enforced has no part in its
fault. -/
theorem activate_fails_on_long_run :
    let d : Descriptor :=
      { pluginId := .text "mapper", name := .text "field_mapping"
        version := .text (String.ofList (List.replicate 4301 '1')) }
    (∃ runs, Declares d.version runs) ∧
      ∃ fault, (({ enforce := false } : Activator).activate d).2 = .error (.value fault) := by
  intro d
  have size : (List.replicate 4301 '1').length = 4301 := List.length_replicate
  have run : Numeral.isRun (List.replicate 4301 '1') = true := by
    refine Numeral.isRun_iff.mpr ⟨List.ne_nil_of_length_eq_add_one size, fun c hc => ?_⟩
    rw [List.eq_of_mem_replicate hc]
    decide
  have declares : Declares d.version (List.replicate 4301 '1', none) :=
    ⟨_, rfl, ⟨run, by simp⟩, String.toList_ofList⟩
  have long : ¬ IsShort (List.replicate 4301 '1', none) := fun h => absurd (size ▸ h.1) (by decide)
  exact ⟨⟨_, declares⟩, exists_fault_of_not_readable fun h => long (h.short _ declares)⟩

end Activator

end RecordPipeline
