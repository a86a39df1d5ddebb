import RecordPipeline.Proofs.Conversion.Outcome
import RecordPipeline.Proofs.FieldMapping.Record
import RecordPipeline.Proofs.Processor.Hold
set_option autoImplicit false

namespace RecordPipeline

namespace FieldMapping

open Value (IsDict atKey? field? tableRecords)

theorem map_fst_convertRecord {ts : Targets} {fs fs' : Fields} (h : convertRecord ts fs = .ok fs') :
    fs'.map Prod.fst = fs.map Prod.fst := by
  induction ts generalizing fs with
  | nil =>
    cases h
    rfl
  | cons head ts ih =>
    obtain ⟨f, t⟩ := head
    cases found : atKey? f fs with
    | none => exact ih (convertRecord_cons_absent found ▸ h)
    | some v =>
      cases converted : Converter.convert t v with
      | error fault =>
        rw [convertRecord_cons_error found converted] at h
        cases h
      | ok w =>
        rw [convertRecord_cons_ok found converted] at h
        rw [ih h, Value.map_fst_putEntry (by simp [found])]

theorem isDict_convertRecord {ts : Targets} {fs fs' : Fields} (hfs : IsDict fs)
    (h : convertRecord ts fs = .ok fs') : IsDict fs' :=
  hfs.of_map_fst_eq (map_fst_convertRecord h)

/-- A record in which every declared field that is there holds a value of the declared type. -/
def Typed (ts : Targets) (fs : Fields) : Prop :=
  ∀ t ∈ ts, ∀ v, atKey? t.1 fs = some v → (fieldType t.2).accepts v = true

theorem declaredFor_eq_some {ts : Targets} (hts : IsDict ts) {k : Value} (key : k.keyFault? = none)
    {t : Value × TargetType} (ht : t ∈ ts) (hk : k.sameKey t.1 = true) :
    declaredFor ts k = some t.2 := by
  induction ts with
  | nil => simp at ht
  | cons head ts ih =>
    obtain ⟨f, t'⟩ := head
    rw [declaredFor_cons]
    rcases List.mem_cons.mp ht with rfl | later
    · simp [hk]
    · have apart : ¬ k.sameKey f = true := fun hk' => not_sameKey_of_sameKey_head hts key hk' t later hk
      rw [if_neg apart]
      exact ih hts.tail later

theorem typed_convertRecord {ts : Targets} {fs fs' : Fields} (hts : IsDict ts) (hfs : IsDict fs)
    (h : convertRecord ts fs = .ok fs') : Typed ts fs' := by
  intro t ht v found
  obtain ⟨e', he', hk, rfl⟩ := Value.exists_of_atKey?_eq_some found
  have entries := (convertRecord_eq_ok_iff hts hfs).mp h
  have here : Except.ok e' ∈ fs.map (convertEntry ts) := entries ▸ List.mem_map_of_mem he'
  obtain ⟨e, -, converted⟩ := List.mem_map.mp here
  have key : e'.1.keyFault? = none := (isDict_convertRecord hfs h).keys e' he'
  have declared := declaredFor_eq_some hts key ht hk
  rw [fst_eq_of_convertEntry converted] at declared
  exact Converter.accepts_of_convert ((convertEntry_eq_ok_iff declared).mp converted).2

/-- The records that a batch consists of: those of a list, or the rows of a table whose columns
differ and whose rows are as long as it is wide. -/
inductive IsBatch : Value → List Fields → Prop
  | list {records : List Fields} (dicts : ∀ fs ∈ records, IsDict fs) :
    IsBatch (.list (records.map .record)) records
  | table {columns : List String} {rows : List (List Value)} (apart : columns.Nodup)
    (width : ∀ cells ∈ rows, cells.length = columns.length) :
    IsBatch (.table columns rows) (tableRecords columns rows)

theorem map_fst_of_mem_tableRecords {columns : List String} {rows : List (List Value)}
    (width : ∀ cells ∈ rows, cells.length = columns.length) {fs : Fields}
    (h : fs ∈ tableRecords columns rows) : fs.map Prod.fst = columns.map .text := by
  unfold tableRecords at h
  split at h
  · simp at h
  · obtain ⟨cells, hcells, rfl⟩ := List.mem_map.mp h
    exact List.map_fst_zip (by simp [width cells hcells])

theorem cellsOf_eq_map_snd {columns : List String} {fs : Fields} (apart : columns.Nodup)
    (keys : fs.map Prod.fst = columns.map .text) : cellsOf columns fs = fs.map Prod.snd := by
  have dict := IsDict.of_names apart keys
  have found : ∀ e ∈ fs, (atKey? e.1 fs).getD (.float .nan) = e.2 := by
    intro e he
    have text : e.1 ∈ columns.map .text := keys ▸ List.mem_map_of_mem he
    obtain ⟨name, -, key⟩ := List.mem_map.mp text
    have itself : e.1.sameKey e.1 = true := by rw [← key, Value.sameKey_text_iff]
    rw [dict.atKey?_eq_some_iff.mpr ⟨e, he, itself, rfl⟩]
    rfl
  have cells : cellsOf columns fs =
      (columns.map Value.text).map fun k => (atKey? k fs).getD (.float .nan) := by
    simp [cellsOf, field?]
  rw [cells, ← keys, List.map_map]
  exact List.map_congr_left found

theorem tableRecords_map_cellsOf {columns : List String} {kept : List Fields} (wide : columns ≠ [])
    (apart : columns.Nodup) (keys : ∀ fs ∈ kept, fs.map Prod.fst = columns.map .text) :
    tableRecords columns (kept.map (cellsOf columns)) = kept := by
  have each : ∀ fs ∈ kept, (columns.map Value.text).zip (cellsOf columns fs) = fs := by
    intro fs hfs
    rw [cellsOf_eq_map_snd apart (keys fs hfs), ← keys fs hfs, List.zip_map']
    simp
  rw [tableRecords, if_neg (by simpa using wide), List.map_map]
  conv_rhs => rw [← List.map_id kept]
  exact List.map_congr_left each

theorem recordsOf_cons (fs : Fields) (rest : List Value) :
    recordsOf (.list (.record fs :: rest)) = (recordsOf (.list rest)).map (fs :: ·) := by
  cases others : recordsOf (.list rest) with
  | error fault =>
    simp only [recordsOf] at others
    simp only [recordsOf, List.mapM_cons, others]
    rfl
  | ok records =>
    simp only [recordsOf] at others
    simp only [recordsOf, List.mapM_cons, others]
    rfl

theorem eq_map_of_recordsOf_eq_ok {items : List Value} {records : List Fields}
    (found : recordsOf (.list items) = .ok records) : items = records.map .record := by
  induction items generalizing records with
  | nil =>
    cases found
    rfl
  | cons item rest ih =>
    cases item with
    | record fs =>
      rw [recordsOf_cons] at found
      cases others : recordsOf (.list rest) with
      | error fault =>
        rw [others] at found
        cases found
      | ok later =>
        rw [others] at found
        cases found
        rw [ih others, List.map_cons]
    | _ => cases found

theorem eq_of_recordsOf_eq_ok {data : Value} {records : List Fields}
    (found : recordsOf data = .ok records) :
    data = .list (records.map .record) ∨ ∃ columns rows, data = .table columns rows := by
  cases data with
  | table columns rows => exact .inr ⟨columns, rows, rfl⟩
  | list items => exact .inl (congrArg Value.list (eq_map_of_recordsOf_eq_ok found))
  | _ => cases found

namespace IsBatch

variable {data : Value} {records kept : List Fields}

theorem recordsOf_eq (batch : IsBatch data records) : recordsOf data = .ok records := by
  cases batch with
  | list dicts =>
    clear dicts
    induction records with
    | nil => rfl
    | cons fs rest ih =>
      rw [List.map_cons, recordsOf_cons, ih]
      rfl
  | table apart width => rfl

theorem dicts (batch : IsBatch data records) : ∀ fs ∈ records, IsDict fs := by
  cases batch with
  | list dicts => exact dicts
  | table apart width =>
    exact fun fs hfs => IsDict.of_names apart (map_fst_of_mem_tableRecords width hfs)

theorem sameForm (batch : IsBatch data records)
    (keys : ∀ fs' ∈ kept, ∃ fs ∈ records, fs'.map Prod.fst = fs.map Prod.fst) :
    IsBatch (FieldMapping.sameForm data kept) kept := by
  cases batch with
  | list dicts =>
    refine .list fun fs' hfs' => ?_
    obtain ⟨fs, hfs, same⟩ := keys fs' hfs'
    exact (dicts fs hfs).of_map_fst_eq same
  | @table columns rows apart width =>
    have keys' : ∀ fs' ∈ kept, fs'.map Prod.fst = columns.map .text := by
      intro fs' hfs'
      obtain ⟨fs, hfs, same⟩ := keys fs' hfs'
      rw [same, map_fst_of_mem_tableRecords width hfs]
    have form : IsBatch (.table columns (kept.map (cellsOf columns)))
        (tableRecords columns (kept.map (cellsOf columns))) :=
      .table apart (by simp [cellsOf])
    cases columns with
    | nil =>
      have none : kept = [] := by
        refine List.eq_nil_iff_forall_not_mem.mpr fun fs' hfs' => ?_
        obtain ⟨fs, hfs, -⟩ := keys fs' hfs'
        simp [tableRecords] at hfs
      subst none
      exact form
    | cons name names =>
      rw [tableRecords_map_cellsOf (by simp) apart keys'] at form
      exact form

end IsBatch

end FieldMapping

end RecordPipeline
