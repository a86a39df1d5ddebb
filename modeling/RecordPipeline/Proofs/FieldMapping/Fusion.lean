import RecordPipeline.Proofs.FieldMapping.Batch
import RecordPipeline.Proofs.FieldMapping.Settle
set_option autoImplicit false

namespace RecordPipeline

namespace FieldMapping

open Value (IsDict)

variable {ts ts' : Targets} {fs fs' : Fields} {records : List Fields}

section Append

theorem convertRecord_append (ts ts' : Targets) (fs : Fields) :
    convertRecord (ts ++ ts') fs = convertRecord ts fs >>= convertRecord ts' := by
  induction ts generalizing fs with
  | nil => rfl
  | cons head ts ih =>
    obtain ⟨f, t⟩ := head
    rw [List.cons_append]
    cases found : Value.atKey? f fs with
    | none => rw [convertRecord_cons_absent found, convertRecord_cons_absent found, ih]
    | some v =>
      cases converted : Converter.convert t v with
      | error fault =>
        rw [convertRecord_cons_error found converted, convertRecord_cons_error found converted]
        rfl
      | ok w => rw [convertRecord_cons_ok found converted, convertRecord_cons_ok found converted, ih]

theorem converted_append (ts ts' : Targets) (records : List Fields) :
    converted (ts ++ ts') records = converted ts' (converted ts records) := by
  simp only [converted, List.filterMap_filterMap]
  refine List.filterMap_congr fun fs _ => ?_
  rw [convertRecord_append]
  cases convertRecord ts fs <;> rfl

theorem length_refused_append (ts ts' : Targets) (records : List Fields) :
    (refused (ts ++ ts') records).length =
      (refused ts records).length + (refused ts' (converted ts records)).length := by
  have both := length_converted_add_length_refused (ts ++ ts') records
  have first := length_converted_add_length_refused ts records
  have second := length_converted_add_length_refused ts' (converted ts records)
  rw [converted_append] at both
  omega

/-- What stands under the fields of another mapping is converted as before. -/
theorem fieldFault?_convertRecord (hts : IsDict (ts ++ ts')) (hfs : IsDict fs)
    (h : convertRecord ts fs = .ok fs') {t : Value × TargetType} (ht : t ∈ ts') :
    fieldFault? fs' t = fieldFault? fs t := by
  induction ts generalizing fs with
  | nil =>
    cases h
    rfl
  | cons head ts ih =>
    obtain ⟨f, t₀⟩ := head
    cases found : Value.atKey? f fs with
    | none => exact ih hts.tail hfs (convertRecord_cons_absent found ▸ h)
    | some v =>
      cases converted : Converter.convert t₀ v with
      | error fault =>
        rw [convertRecord_cons_error found converted] at h
        cases h
      | ok w =>
        rw [convertRecord_cons_ok found converted] at h
        rw [ih hts.tail (isDict_putEntry hfs found) h]
        exact fieldFault?_putEntry hts hfs found (List.mem_append_right ts ht)

end Append

section Order

theorem declaredFor_eq_some_iff (hts : IsDict ts) {k : Value} (key : k.keyFault? = none)
    {t : TargetType} : declaredFor ts k = some t ↔ ∃ e ∈ ts, k.sameKey e.1 = true ∧ e.2 = t := by
  constructor
  · intro h
    obtain ⟨e, first, rfl⟩ := Option.map_eq_some_iff.mp h
    exact ⟨e, List.mem_of_find?_eq_some first, by simpa using List.find?_some first, rfl⟩
  · rintro ⟨e, he, same, rfl⟩
    exact declaredFor_eq_some hts key he same

theorem convertEntry_perm (hts : IsDict ts) (order : ts.Perm ts') {e : Value × Value}
    (key : e.1.keyFault? = none) : convertEntry ts e = convertEntry ts' e := by
  have same : declaredFor ts e.1 = declaredFor ts' e.1 := by
    refine Option.ext fun t => ?_
    rw [declaredFor_eq_some_iff hts key, declaredFor_eq_some_iff (hts.perm order) key]
    simp only [order.mem_iff]
  simp only [convertEntry, same]

theorem toOption_convertRecord_perm (hts : IsDict ts) (order : ts.Perm ts') (hfs : IsDict fs) :
    (convertRecord ts fs).toOption = (convertRecord ts' fs).toOption := by
  have entries : fs.map (convertEntry ts) = fs.map (convertEntry ts') :=
    List.map_congr_left fun e he => convertEntry_perm hts order (hfs.keys e he)
  have same (fs' : Fields) : convertRecord ts fs = .ok fs' ↔ convertRecord ts' fs = .ok fs' := by
    rw [convertRecord_eq_ok_iff hts hfs, convertRecord_eq_ok_iff (hts.perm order) hfs, entries]
  cases h : convertRecord ts fs with
  | ok fs' => rw [(same fs').mp h]
  | error fault =>
    cases h' : convertRecord ts' fs with
    | ok fs' =>
      rw [(same fs').mpr h'] at h
      cases h
    | error fault' => rfl

theorem converted_perm (hts : IsDict ts) (order : ts.Perm ts') (dicts : ∀ fs ∈ records, IsDict fs) :
    converted ts records = converted ts' records :=
  List.filterMap_congr fun fs hfs => toOption_convertRecord_perm hts order (dicts fs hfs)

theorem length_refused_perm (hts : IsDict ts) (order : ts.Perm ts')
    (dicts : ∀ fs ∈ records, IsDict fs) : (refused ts records).length = (refused ts' records).length := by
  have first := length_converted_add_length_refused ts records
  have second := length_converted_add_length_refused ts' records
  rw [converted_perm hts order dicts] at first
  omega

end Order

/-- Every declared field that a record has is converted or refused; none fails below its conversion. -/
def LeakFree (ts : Targets) (fs : Fields) : Prop :=
  ∀ t ∈ ts, ∀ fault, fieldFault? fs t ≠ some (.value fault)

namespace LeakFree

theorem of_subset (h : LeakFree ts fs) (part : ts' ⊆ ts) : LeakFree ts' fs := fun t ht => h t (part ht)

theorem ne_value (h : LeakFree ts fs) (hts : IsDict ts) (hfs : IsDict fs) (fault : ValueFault) :
    convertRecord ts fs ≠ .error (.value fault) := by
  intro failed
  obtain ⟨t, ht, here⟩ :=
    List.exists_of_findSome?_eq_some ((convertRecord_eq_error_iff hts hfs).mp failed)
  exact h t ht fault here

theorem convertRecord (h : LeakFree (ts ++ ts') fs) (hts : IsDict (ts ++ ts')) (hfs : IsDict fs)
    (converted : FieldMapping.convertRecord ts fs = .ok fs') : LeakFree ts' fs' := by
  intro t ht fault
  rw [fieldFault?_convertRecord hts hfs converted ht]
  exact h t (List.mem_append_right ts ht) fault

end LeakFree

end FieldMapping

end RecordPipeline
