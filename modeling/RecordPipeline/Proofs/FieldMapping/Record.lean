import Mathlib.Data.List.Basic
import RecordPipeline.Processor.FieldMapping
import RecordPipeline.Proofs.Value.Key
set_option autoImplicit false

/-!
Conversion of one record. The declared fields are converted one after the other, and the first that
fails ends the conversion; what comes out is the record with each entry converted on its own, and
there is a result exactly when no declared field has a fault. Declared types and records are
mappings throughout: the types that a processor is made with are one (`isDict_targets`).
-/

namespace RecordPipeline

namespace FieldMapping

open Value (IsDict atKey? putEntry)

def declaredFor (ts : Targets) (k : Value) : Option TargetType :=
  (ts.find? fun t => k.sameKey t.1).map Prod.snd

/-- Converts the value of one entry to the type declared for its key, if there is one. -/
def convertEntry (ts : Targets) (e : Value × Value) : Except ConversionFault (Value × Value) :=
  match declaredFor ts e.1 with
  | some t => (Converter.convert t e.2).map fun v => (e.1, v)
  | none => .ok e

theorem convertEntry_eq_ok_iff {ts : Targets} {e e' : Value × Value} {t : TargetType}
    (declared : declaredFor ts e.1 = some t) :
    convertEntry ts e = .ok e' ↔ e'.1 = e.1 ∧ Converter.convert t e.2 = .ok e'.2 := by
  obtain ⟨k, v⟩ := e'
  simp only [convertEntry, declared]
  cases Converter.convert t e.2 with
  | error fault => simp [Except.map]
  | ok w => simp [Except.map, eq_comm]

theorem fst_eq_of_convertEntry {ts : Targets} {e e' : Value × Value}
    (h : convertEntry ts e = .ok e') : e'.1 = e.1 := by
  cases declared : declaredFor ts e.1 with
  | none =>
    simp only [convertEntry, declared] at h
    cases h
    rfl
  | some t => exact ((convertEntry_eq_ok_iff declared).mp h).1

/-- The fault of converting a declared field, if the record has the field and it is not converted. -/
def fieldFault? (fs : Fields) (t : Value × TargetType) : Option ConversionFault :=
  match atKey? t.1 fs with
  | none => none
  | some v =>
    match Converter.convert t.2 v with
    | .ok _ => none
    | .error fault => some fault

def converts (ts : Targets) (fs : Fields) : Bool := ts.all fun t => (fieldFault? fs t).isNone

theorem declaredFor_cons (f : Value) (t : TargetType) (ts : Targets) (k : Value) :
    declaredFor ((f, t) :: ts) k = if k.sameKey f then some t else declaredFor ts k := by
  by_cases h : k.sameKey f = true <;> simp [declaredFor, h]

theorem declaredFor_eq_none {ts : Targets} {k : Value} (h : ∀ t ∈ ts, ¬ k.sameKey t.1 = true) :
    declaredFor ts k = none := by
  simpa [declaredFor] using h

section Step

variable {f : Value} {t : TargetType} {ts : Targets} {fs : Fields} {v w : Value}

theorem convertRecord_cons_absent (absent : atKey? f fs = none) :
    convertRecord ((f, t) :: ts) fs = convertRecord ts fs := by
  simp [convertRecord, absent]

theorem convertRecord_cons_ok (found : atKey? f fs = some v)
    (converted : Converter.convert t v = .ok w) :
    convertRecord ((f, t) :: ts) fs = convertRecord ts (putEntry f w fs) := by
  simp [convertRecord, found, converted, bind, Except.bind]

theorem convertRecord_cons_error {fault : ConversionFault} (found : atKey? f fs = some v)
    (refused : Converter.convert t v = .error fault) :
    convertRecord ((f, t) :: ts) fs = .error fault := by
  simp [convertRecord, found, refused, bind, Except.bind]

theorem not_sameKey_of_sameKey_head (hts : IsDict ((f, t) :: ts)) {k : Value}
    (key : k.keyFault? = none) (hk : k.sameKey f = true) :
    ∀ t' ∈ ts, ¬ k.sameKey t'.1 = true := by
  intro t' ht' hk'
  have forth := Value.sameKey_trans (hts.keys (f, t) List.mem_cons_self)
    (Value.sameKey_symm key hk) hk'
  exact (List.pairwise_cons.mp hts.apart).1 t' ht' forth

theorem fieldFault?_putEntry (hts : IsDict ((f, t) :: ts)) (hfs : IsDict fs)
    (found : atKey? f fs = some v) {t' : Value × TargetType} (ht' : t' ∈ ts) :
    fieldFault? (putEntry f w fs) t' = fieldFault? fs t' := by
  have apart : ∀ e ∈ fs, e.1.sameKey t'.1 = true → ¬ e.1.sameKey f = true := fun e he hk' hk =>
    not_sameKey_of_sameKey_head hts (hfs.keys e he) hk t' ht' hk'
  have same := Value.atKey?_putEntry_of_apart apart (by simp [found]) w
  simp only [fieldFault?, same]

theorem isDict_putEntry (hfs : IsDict fs) (found : atKey? f fs = some v) :
    IsDict (putEntry f w fs) :=
  hfs.of_map_fst_eq (Value.map_fst_putEntry (by simp [found]) w)

theorem map_convertEntry_putEntry (hts : IsDict ((f, t) :: ts)) (hfs : IsDict fs)
    (found : atKey? f fs = some v) (converted : Converter.convert t v = .ok w) :
    (putEntry f w fs).map (convertEntry ts) = fs.map (convertEntry ((f, t) :: ts)) := by
  rw [hfs.putEntry_eq_map (by simp [found]), List.map_map]
  apply List.map_congr_left
  intro e he
  by_cases hk : e.1.sameKey f = true
  · obtain ⟨e', he', hk', hv⟩ := hfs.atKey?_eq_some_iff.mp found
    obtain rfl := hfs.eq_of_sameKey he he' hk hk'
    have once := declaredFor_eq_none (not_sameKey_of_sameKey_head hts (hfs.keys e he) hk)
    simp [convertEntry, declaredFor_cons, hk, once, hv, converted, Except.map]
  · simp [convertEntry, declaredFor_cons, hk]

end Step

/-- What a converted record is: every entry converted on its own, keys and their order kept. -/
theorem convertRecord_eq_ok_iff {ts : Targets} {fs fs' : Fields} (hts : IsDict ts) (hfs : IsDict fs) :
    convertRecord ts fs = .ok fs' ↔ fs.map (convertEntry ts) = fs'.map .ok := by
  induction ts generalizing fs with
  | nil =>
    have plain : fs.map (convertEntry []) = fs.map .ok := rfl
    rw [convertRecord, plain, List.map_inj_right (by simp)]
    simp
  | cons head ts ih =>
    obtain ⟨f, t⟩ := head
    cases found : atKey? f fs with
    | none =>
      have same : fs.map (convertEntry ((f, t) :: ts)) = fs.map (convertEntry ts) := by
        apply List.map_congr_left
        intro e he
        have hk := Value.atKey?_eq_none_iff.mp found e he
        simp [convertEntry, declaredFor_cons, hk]
      rw [convertRecord_cons_absent found, same]
      exact ih hts.tail hfs
    | some v =>
      cases converted : Converter.convert t v with
      | error fault =>
        obtain ⟨e, he, hk, rfl⟩ := hfs.atKey?_eq_some_iff.mp found
        have refused : convertEntry ((f, t) :: ts) e = .error fault := by
          simp [convertEntry, declaredFor_cons, hk, converted, Except.map]
        rw [convertRecord_cons_error found converted]
        constructor
        · intro h
          cases h
        · intro h
          have : convertEntry ((f, t) :: ts) e ∈ fs'.map .ok := h ▸ List.mem_map_of_mem he
          simp [refused] at this
      | ok w =>
        rw [convertRecord_cons_ok found converted,
          ← map_convertEntry_putEntry hts hfs found converted]
        exact ih hts.tail (isDict_putEntry hfs found)

theorem convertRecord_eq_error_iff {ts : Targets} {fs : Fields} {fault : ConversionFault}
    (hts : IsDict ts) (hfs : IsDict fs) :
    convertRecord ts fs = .error fault ↔ ts.findSome? (fieldFault? fs) = some fault := by
  induction ts generalizing fs with
  | nil => simp [convertRecord]
  | cons head ts ih =>
    obtain ⟨f, t⟩ := head
    cases found : atKey? f fs with
    | none =>
      rw [convertRecord_cons_absent found]
      simpa [List.findSome?_cons, fieldFault?, found] using ih hts.tail hfs
    | some v =>
      cases converted : Converter.convert t v with
      | error first =>
        rw [convertRecord_cons_error found converted]
        simp [fieldFault?, found, converted]
      | ok w =>
        have same : ts.findSome? (fieldFault? (putEntry f w fs)) =
            ts.findSome? (fieldFault? fs) := by
          rw [← List.head?_filterMap, ← List.head?_filterMap]
          exact congrArg List.head?
            (List.filterMap_congr fun t' ht' => fieldFault?_putEntry hts hfs found ht')
        rw [convertRecord_cons_ok found converted, ih hts.tail (isDict_putEntry hfs found), same]
        simp [fieldFault?, found, converted]

theorem converts_iff_findSome?_eq_none {ts : Targets} {fs : Fields} :
    converts ts fs = true ↔ ts.findSome? (fieldFault? fs) = none := by
  simp [converts, List.findSome?_eq_none_iff]

theorem exists_convertRecord_eq_ok_iff {ts : Targets} {fs : Fields} (hts : IsDict ts)
    (hfs : IsDict fs) : (∃ fs', convertRecord ts fs = .ok fs') ↔ converts ts fs = true := by
  rw [converts_iff_findSome?_eq_none]
  cases converted : convertRecord ts fs with
  | ok fs' =>
    cases first : ts.findSome? (fieldFault? fs) with
    | none => simp
    | some fault =>
      have := (convertRecord_eq_error_iff hts hfs).mpr first
      simp [converted] at this
  | error fault => simp [(convertRecord_eq_error_iff hts hfs).mp converted]

end FieldMapping

end RecordPipeline
