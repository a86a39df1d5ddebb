import RecordPipeline.Proofs.Plugin.Declared
set_option autoImplicit false

namespace RecordPipeline.Version

open Numeral (digitLimit value)

theorem not_mem_of_isRun {ds : List Char} (run : Numeral.isRun ds = true) : '.' ∉ ds := by
  intro member
  have digit := (Numeral.isRun_iff.mp run).2 '.' member
  cases digit

theorem point_mem_written_iff {runs : Runs} (are : AreRuns runs) : '.' ∈ written runs ↔ runs.2 ≠ none := by
  obtain ⟨major, minor⟩ := runs
  have pointless := not_mem_of_isRun are.major
  cases minor <;> simp_all [written]

/-- What reading a text comes to. -/
inductive Reading (s : String) : Except VersionFault Version → Prop
  | version {runs : Runs} (declares : Declares (.text s) runs) (short : IsShort runs) :
    Reading s (.ok (ofNaturals (value runs.1) (runs.2.map value)))
  | tooLong {runs : Runs} {n : Nat} (declares : Declares (.text s) runs) (long : ¬ IsShort runs)
      (above : digitLimit < n) : Reading s (.error (.value (.tooLongToRead n)))
  | malformed (undeclared : ∀ runs, ¬ Declares (.text s) runs) :
    Reading s (.error (.malformed (.text s) (Text.quoted s)))

theorem reading_of_parse (s : String) : Reading s (parse (.text s)) := by
  by_cases declares : ∃ runs, Declares (.text s) runs
  · obtain ⟨runs, declares⟩ := declares
    by_cases short : IsShort runs
    · rw [parse_of_declares declares, ofRuns_of_isShort short]
      exact .version declares short
    · obtain ⟨n, above, unread⟩ := exists_ofRuns_of_not_isShort short
      rw [parse_of_declares declares, unread]
      exact .tooLong declares short above
  · have undeclared := not_exists.mp declares
    rw [parse_of_undeclared undeclared]
    exact .malformed undeclared

section Outcome

variable {s : String}

theorem parse_eq_ok_iff {v : Version} : parse (.text s) = .ok v ↔
    ∃ runs, Declares (.text s) runs ∧ IsShort runs ∧ v = ofNaturals (value runs.1) (runs.2.map value) := by
  constructor
  · intro read
    have reading := reading_of_parse s
    rw [read] at reading
    cases reading with
    | version declares short => exact ⟨_, declares, short, rfl⟩
  · rintro ⟨runs, declares, short, rfl⟩
    rw [parse_of_declares declares, ofRuns_of_isShort short]
    rfl

theorem minor_eq_none_iff {v : Version} (read : parse (.text s) = .ok v) : v.minor = none ↔ '.' ∉ s.toList := by
  obtain ⟨runs, ⟨t, same, are, text⟩, -, rfl⟩ := parse_eq_ok_iff.mp read
  cases same
  rw [text, point_mem_written_iff are, not_not]
  simp [ofNaturals, ofNumbers]

theorem parse_eq_malformed_iff {given : Value} {shown : String} :
    parse (.text s) = .error (.malformed given shown) ↔
      given = .text s ∧ shown = Text.quoted s ∧ ∀ runs, ¬ Declares (.text s) runs := by
  constructor
  · intro refused
    have reading := reading_of_parse s
    rw [refused] at reading
    cases reading with
    | malformed undeclared => exact ⟨rfl, rfl, undeclared⟩
  · rintro ⟨rfl, rfl, undeclared⟩
    exact parse_of_undeclared undeclared

theorem exists_parse_eq_value_iff : (∃ fault, parse (.text s) = .error (.value fault)) ↔
    ∃ runs, Declares (.text s) runs ∧ ¬ IsShort runs := by
  constructor
  · rintro ⟨fault, failed⟩
    have reading := reading_of_parse s
    rw [failed] at reading
    cases reading with
    | tooLong declares long => exact ⟨_, declares, long⟩
  · rintro ⟨runs, declares, long⟩
    obtain ⟨n, -, unread⟩ := exists_ofRuns_of_not_isShort long
    exact ⟨_, by rw [parse_of_declares declares, unread]; rfl⟩

theorem fault_eq_tooLongToRead {fault : ValueFault} (failed : parse (.text s) = .error (.value fault)) :
    ∃ n, digitLimit < n ∧ fault = .tooLongToRead n := by
  have reading := reading_of_parse s
  rw [failed] at reading
  cases reading with
  | tooLong declares long above => exact ⟨_, above, rfl⟩

end Outcome

/-- A text is read exactly if it consists of one run of digits, or of two with a point between them,
none of them longer than numerals may be. What is read has the numbers of the runs for its parts.
Any other text is refused as it came, save that a run that is too long is reported as such. -/
theorem parse_text_exact (s : String) :
    (∀ v, parse (.text s) = .ok v ↔ ∃ runs, Declares (.text s) runs ∧ IsShort runs ∧
      v = ofNaturals (value runs.1) (runs.2.map value)) ∧
    (∀ v, parse (.text s) = .ok v → (v.minor = none ↔ '.' ∉ s.toList)) ∧
    (∀ given shown, parse (.text s) = .error (.malformed given shown) ↔
      given = .text s ∧ shown = Text.quoted s ∧ ∀ runs, ¬ Declares (.text s) runs) ∧
    ((∃ fault, parse (.text s) = .error (.value fault)) ↔
      ∃ runs, Declares (.text s) runs ∧ ¬ IsShort runs) ∧
    ∀ fault, parse (.text s) = .error (.value fault) → ∃ n, digitLimit < n ∧ fault = .tooLongToRead n :=
  ⟨fun _ => parse_eq_ok_iff, fun _ => minor_eq_none_iff, fun _ _ => parse_eq_malformed_iff,
    exists_parse_eq_value_iff, fun _ => fault_eq_tooLongToRead⟩

theorem parse_text_exact_zeros : ∃ v, parse (.text "02.010") = .ok v ∧ v = ofNaturals 2 (some 10) ∧
    v.minor ≠ none ∧ '.' ∈ "02.010".toList := by
  obtain ⟨reads, minor, -⟩ := parse_text_exact "02.010"
  have declares : Declares (.text "02.010") (['0', '2'], some ['0', '1', '0']) :=
    ⟨"02.010", rfl, areRuns_of_readRuns (by decide)⟩
  have short : IsShort (['0', '2'], some ['0', '1', '0']) := ⟨by decide, by rintro ds ⟨⟩; decide⟩
  have read := (reads _).mpr ⟨_, declares, short, rfl⟩
  have point : '.' ∈ "02.010".toList := by decide
  exact ⟨_, read, rfl, fun none => (minor _ read).mp none point, point⟩

end RecordPipeline.Version
