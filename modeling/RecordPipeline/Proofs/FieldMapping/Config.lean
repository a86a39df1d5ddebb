import RecordPipeline.Proofs.FieldMapping.Output
import RecordPipeline.Proofs.Json.Native
set_option autoImplicit false

namespace RecordPipeline

namespace TargetType

def knownNames : List String := ["integer", "double", "boolean", "string", "int", "float", "bool", "str"]

theorem exists_ofLowerName?_iff {name : String} : (∃ t, ofLowerName? name = some t) ↔ name ∈ knownNames := by
  unfold ofLowerName?
  split <;> simp_all [knownNames]

/-- A text that, trimmed and in small letters, is a known name. -/
def IsNamed (declared : Value) : Prop := ∃ name, declared = .text name ∧ (Text.trim name).toLower ∈ knownNames

theorem isNamed_iff {declared : Value} :
    IsNamed declared ↔ ∃ name t, declared = .text name ∧ ofName? name = some t := by
  simp only [IsNamed, ← exists_ofLowerName?_iff, ofName?, exists_and_left]

theorem exists_ofValue_iff {declared : Value} : (∃ t, ofValue declared = .ok t) ↔ IsNamed declared := by
  rw [isNamed_iff]
  cases declared with
  | text name => cases found : ofName? name <;> simp [ofValue, found]
  | _ =>
    simp only [ofValue, reduceCtorEq, false_and, exists_false, iff_false]
    split <;> simp

end TargetType

def ConversionError.IsUnsupported : ConversionError → Prop
  | .numberFormat .. => False
  | _ => True

theorem TargetType.isUnsupported_of_ofValue {declared : Value} {e : ConversionError}
    (refused : ofValue declared = .error (.refused e)) : e.IsUnsupported := by
  unfold ofValue at refused
  split at refused
  · split at refused <;> cases refused
    trivial
  · split at refused <;> cases refused
    trivial

namespace FieldMapping

open Value (IsDict)

section Resolved

variable {m : Fields}

theorem allNamed_eq_map (m : Fields) : allNamed m = (resolve m).map fun _ => () := by
  induction m with
  | nil => rfl
  | cons f m ih =>
    obtain ⟨field, declared⟩ := f
    simp only [allNamed, resolve, ih]
    cases TargetType.ofValue declared with
    | error fault => rfl
    | ok t => cases resolve m <;> rfl

theorem exists_resolve_iff : (∃ ts, resolve m = .ok ts) ↔ ∀ f ∈ m, TargetType.IsNamed f.2 := by
  constructor
  · rintro ⟨ts, resolved⟩
    induction m generalizing ts with
    | nil => simp
    | cons f m ih =>
      obtain ⟨t, named, others⟩ := exists_of_bind_eq_ok resolved
      obtain ⟨ts', later, -⟩ := exists_of_bind_eq_ok others
      exact List.forall_mem_cons.mpr ⟨TargetType.exists_ofValue_iff.mp ⟨t, named⟩, ih ts' later⟩
  · intro named
    obtain ⟨ts, resolved, -⟩ := exists_resolve_of_named fun f member => TargetType.isNamed_iff.mp (named f member)
    exact ⟨ts, resolved⟩

theorem isUnsupported_of_resolve {e : ConversionError} (refused : resolve m = .error (.refused e)) :
    e.IsUnsupported := by
  induction m with
  | nil => cases refused
  | cons f m ih =>
    obtain ⟨field, declared⟩ := f
    simp only [resolve] at refused
    cases named : TargetType.ofValue declared with
    | error fault =>
      rw [named] at refused
      cases refused
      exact TargetType.isUnsupported_of_ofValue named
    | ok t =>
      rw [named] at refused
      cases later : resolve m with
      | error fault =>
        rw [later] at refused
        cases refused
        exact ih later
      | ok ts =>
        rw [later] at refused
        cases refused

theorem targets_fields (dict : IsDict m) (s : Settings) :
    targets s (.fields m) = (resolve m).mapError Fault.ofConversion := by
  have once : m.foldl (fun found f => Value.putEntry f.1 f.2 found) [] = m :=
    Value.record.inj (Value.ofPairs_of_isDict dict)
  simp only [targets, declared, once, bind, Except.bind]

end Resolved

/-- A configuration that declares field mappings and nothing else. -/
def configOf (m : Fields) : Value := .record [(.text "field_mappings", .record m)]

theorem validateConfig_configOf (m : Fields) : validateConfig (configOf m) =
    match resolve m with
    | .ok _ => .ok true
    | .error (.refused _) => .ok false
    | .error (.value fault) => .error fault := by
  have found : declaredIn (configOf m) = .ok (.record m) := by
    simp [declaredIn, configOf, Value.field?, Value.atKey?, Value.sameKey_text_iff]
  simp only [validateConfig, found, allNamed_eq_map, bind, Except.bind]
  rcases resolve m with (e | fault) | ts <;> rfl

/-- Whatever mapper is asked, the check is passed if and only if the mapping makes a mapper, that is
when it declares known names; it is failed if and only if the construction refuses a declared type,
and a fault that it raises is the one that the construction raises. -/
theorem validateConfig_foretells (i : Identity) (ts : Targets) (s : Settings) {m : Fields} (dict : IsDict m) :
    ((processor i ts).validateConfig (configOf m) = .ok true ↔ ∃ made, targets s (.fields m) = .ok made) ∧
    ((processor i ts).validateConfig (configOf m) = .ok false ↔
      ∃ e : ConversionError, e.IsUnsupported ∧ targets s (.fields m) = .error (.conversion e)) ∧
    (∀ fault, (processor i ts).validateConfig (configOf m) = .error fault ↔
      targets s (.fields m) = .error (.value fault)) ∧
    ((processor i ts).validateConfig (configOf m) = .ok true ↔ ∀ f ∈ m, TargetType.IsNamed f.2) := by
  have checked : (processor i ts).validateConfig (configOf m) = validateConfig (configOf m) := rfl
  rw [checked, validateConfig_configOf, targets_fields dict, ← exists_resolve_iff]
  rcases resolved : resolve m with (e | fault) | made
  · have unsupported : e.IsUnsupported := isUnsupported_of_resolve resolved
    simp [Except.mapError, Fault.ofConversion, unsupported]
  · simp [Except.mapError, Fault.ofConversion]
  · simp [Except.mapError]

theorem validateConfig_foretells_long_number :
    let m : Fields :=
      [(.text "speed", .text " INT "), (.text "gear", .int (10 ^ (4300 : Nat))), (.text "load", .text "ton")]
    (processor (identity .null .null) []).validateConfig (configOf m) = .error .tooLongToWrite ∧
      ¬ ∀ f ∈ m, TargetType.IsNamed f.2 := by
  intro m
  have dict : IsDict m := @IsDict.of_names Value _ ["speed", "gear", "load"] (by decide) rfl
  have known : TargetType.ofName? " INT " = some .integer := by decide +kernel
  have long : (Value.int (10 ^ (4300 : Nat))).shown = .error .tooLongToWrite := by
    simp only [Value.shown, Numeral.write]
    rw [if_pos (by decide +kernel)]
  have raised : targets .unset (.fields m) = .error (.value .tooLongToWrite) := by
    rw [targets_fields dict]
    simp only [m, resolve, TargetType.ofValue, known, long]
    rfl
  obtain ⟨-, -, faults, named⟩ := validateConfig_foretells (identity .null .null) [] .unset dict
  have answer := (faults _).mpr raised
  refine ⟨answer, fun all => ?_⟩
  have passed := answer.symm.trans (named.mpr all)
  cases passed

end FieldMapping

end RecordPipeline
