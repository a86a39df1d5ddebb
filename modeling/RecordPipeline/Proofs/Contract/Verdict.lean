import RecordPipeline.Proofs.Contract.Answering
set_option autoImplicit false

/-!
Verdicts of contracts on lists. A contract walks along a list, and an output contract along its
typed fields at each record; the issues are those of the places on the way at which there is one to
find, each once and in their order. How strict the contract is makes no difference.
-/

namespace RecordPipeline

def FieldType.instances : FieldType → List String
  | .int => ["int", "bool"]
  | .other _ instances => instances
  | t => [t.name]

theorem FieldType.accepts_eq (t : FieldType) (v : Value) : t.accepts v = t.instances.contains v.typeName := by
  cases t with
  | other => rfl
  | _ =>
    cases v with
    | unknown type => cases type <;> rfl
    | _ => rfl

def Expectation.instances : Expectation → List String
  | .one t => t.instances
  | .anyOf ts => ts.flatMap FieldType.instances

theorem Expectation.accepts_iff (e : Expectation) (v : Value) : e.accepts v = true ↔ v.typeName ∈ e.instances := by
  cases e with
  | one t => rw [accepts, instances, t.accepts_eq, List.contains_iff_mem]
  | anyOf ts =>
    simp only [accepts, instances, List.any_eq_true, List.mem_flatMap, FieldType.accepts_eq, List.contains_iff_mem]

namespace Contract

/-- The issues are those that are to be found at some places, one for each place and in the order of
the places. -/
def Exactly {ι : Type} (before : ι → ι → Prop) (found : ι → Issue → Prop) (issues : List Issue) : Prop :=
  ∃ told : List (ι × Issue), told.Pairwise (fun t t' => before t.1 t'.1) ∧ told.map Prod.snd = issues ∧
    ∀ place issue, (place, issue) ∈ told ↔ found place issue

namespace Exactly

variable {ι : Type} {before : ι → ι → Prop} {found found' : ι → Issue → Prop} {issues issues' : List Issue}

theorem nil (none : ∀ place issue, ¬ found place issue) : Exactly before found [] :=
  ⟨[], .nil, rfl, fun place issue => by simp [none]⟩

theorem one (place : ι) {issue : Issue} (only : ∀ p i, found p i ↔ p = place ∧ i = issue) :
    Exactly before found [issue] :=
  ⟨[(place, issue)], List.pairwise_singleton .., rfl, fun p i => by rw [List.mem_singleton, Prod.mk.injEq, only]⟩

theorem congr (h : Exactly before found issues) (same : ∀ p i, found p i ↔ found' p i) :
    Exactly before found' issues := by
  obtain ⟨told, sorted, rfl, all⟩ := h
  exact ⟨told, sorted, rfl, fun p i => (all p i).trans (same p i)⟩

theorem append (first : Exactly before found issues) (second : Exactly before found' issues')
    (apart : ∀ p i q j, found p i → found' q j → before p q) :
    Exactly before (fun p i => found p i ∨ found' p i) (issues ++ issues') := by
  obtain ⟨told, sorted, rfl, all⟩ := first
  obtain ⟨told', sorted', rfl, all'⟩ := second
  refine ⟨told ++ told', ?_, List.map_append, fun p i => by rw [List.mem_append, all, all']⟩
  refine List.pairwise_append.mpr ⟨sorted, sorted', fun t here t' there => ?_⟩
  exact apart t.1 t.2 t'.1 t'.2 ((all _ _).mp here) ((all' _ _).mp there)

theorem walk {α : Type} {found : Nat → α → ι → Issue → Prop} {issues : Nat → α → List Issue}
    (each : ∀ k x, Exactly before (found k x) (issues k x))
    (apart : ∀ k x p i l y q j, k < l → found k x p i → found l y q j → before p q) (xs : List α) (n : Nat) :
    Exactly before (fun p i => ∃ k x, xs[k]? = some x ∧ found (n + k) x p i)
      ((xs.zipIdx n).flatMap fun x => issues x.2 x.1) := by
  induction xs generalizing n with
  | nil => exact nil (by simp)
  | cons x xs ih =>
    rw [List.zipIdx_cons, List.flatMap_cons]
    refine ((each n x).append (ih (n + 1)) ?_).congr fun p i => ?_
    · rintro p i q j here ⟨k, y, -, there⟩
      exact apart n x p i (n + 1 + k) y q j (by omega) here there
    · constructor
      · rintro (here | ⟨k, y, item, there⟩)
        · exact ⟨0, x, rfl, here⟩
        · exact ⟨k + 1, y, item, (by omega : n + 1 + k = n + (k + 1)) ▸ there⟩
      · rintro ⟨_ | k, y, item, there⟩
        · cases item
          exact .inl there
        · exact .inr ⟨k, y, item, (by omega : n + (k + 1) = n + 1 + k) ▸ there⟩

end Exactly

section Input

/-- An item of a list that is no record. -/
inductive NoRecord (items : List Value) : Nat → Issue → Prop
  | intro {index : Nat} {item : Value} (there : items[index]? = some item) (other : ∀ fs, item ≠ .record fs) :
    NoRecord items index (invalidRecord index item)

def recordIssues (index : Nat) : Value → List Issue
  | .record _ => []
  | item => [invalidRecord index item]

theorem checkRecords_eq_flatMap (items : List Value) (n : Nat) :
    checkRecords n items = (items.zipIdx n).flatMap fun x => recordIssues x.2 x.1 := by
  induction items generalizing n with
  | nil => rfl
  | cons item rest ih =>
    rw [List.zipIdx_cons, List.flatMap_cons, ← ih]
    cases item <;> rfl

theorem exactly_recordIssues (index : Nat) (item : Value) :
    Exactly (· < ·) (fun p i => p = index ∧ (∀ fs, item ≠ .record fs) ∧ i = invalidRecord index item)
      (recordIssues index item) := by
  cases item with
  | record fs => exact .nil (by simp)
  | _ => exact .one index fun p i => ⟨fun h => ⟨h.1, h.2.2⟩, fun h => ⟨h.1, nofun, h.2⟩⟩

theorem exactly_checkRecords (items : List Value) : Exactly (· < ·) (NoRecord items) (checkRecords 0 items) := by
  rw [checkRecords_eq_flatMap]
  refine (Exactly.walk exactly_recordIssues ?_ items 0).congr fun p i => ?_
  · rintro k x p i l y q j earlier ⟨rfl, -⟩ ⟨rfl, -⟩
    exact earlier
  · constructor
    · rintro ⟨k, x, there, rfl, other, rfl⟩
      rw [Nat.zero_add]
      exact ⟨there, other⟩
    · rintro ⟨there, other⟩
      exact ⟨_, _, there, (Nat.zero_add _).symm, other, by rw [Nat.zero_add]⟩

end Input

section Output

/-- A typed field that a record has, with a value of another type. -/
inductive Mistyped (types : List (String × Expectation)) (records : List (List (Value × Value))) :
    Nat × Nat → Issue → Prop
  | intro {index position : Nat} {fs : List (Value × Value)} {name : String} {expected : Expectation} {v : Value}
    (record : records[index]? = some fs) (typed : types[position]? = some (name, expected))
    (there : Value.field? name fs = some v) (other : v.typeName ∉ expected.instances) :
    Mistyped types records (index, position) (typeIssue index (name, expected) v)

variable {types : List (String × Expectation)}

theorem checkFields_record (index : Nat) (fs : List (Value × Value)) (types : List (String × Expectation)) :
    checkFields index (.record fs) (named types) =
      .ok (types.flatMap fun t => typeIssues index t (Value.field? t.1 fs)) := by
  induction types with
  | nil => rfl
  | cons t types ih =>
    rw [checkFields_named_cons, ih]
    rfl

theorem checkItems_records (records : List (List (Value × Value))) (n : Nat) :
    checkItems (named types) n (records.map .record) = .ok ((records.zipIdx n).flatMap fun x =>
      types.zipIdx.flatMap fun t => typeIssues x.2 t.1 (Value.field? t.1.1 x.1)) := by
  induction records generalizing n with
  | nil => rfl
  | cons fs rest ih =>
    have walked : (types.zipIdx.flatMap fun t => typeIssues n t.1 (Value.field? t.1.1 fs)) =
        types.flatMap fun t => typeIssues n t (Value.field? t.1 fs) := by
      rw [← List.flatMap_map Prod.fst fun t => typeIssues n t (Value.field? t.1 fs), List.zipIdx_map_fst]
    rw [List.map_cons, checkItems, checkFields_record, ih, List.zipIdx_cons, List.flatMap_cons, walked]
    rfl

def Found (fs : List (Value × Value)) (index position : Nat) (t : String × Expectation) (place : Nat × Nat)
    (i : Issue) : Prop :=
  place = (index, position) ∧
    ∃ v, Value.field? t.1 fs = some v ∧ v.typeName ∉ t.2.instances ∧ i = typeIssue index t v

abbrev InOrder : Nat × Nat → Nat × Nat → Prop := Prod.Lex (· < ·) (· < ·)

theorem exactly_typeIssues (fs : List (Value × Value)) (index position : Nat) (t : String × Expectation) :
    Exactly InOrder (Found fs index position t) (typeIssues index t (Value.field? t.1 fs)) := by
  unfold Found
  cases there : Value.field? t.1 fs with
  | none => exact .nil (by simp)
  | some v =>
    by_cases accepted : t.2.accepts v = true
    · have none : typeIssues index t (some v) = [] := by simp [typeIssues, accepted]
      rw [none]
      refine .nil ?_
      rintro p i ⟨-, v', same, other, -⟩
      cases same
      exact other ((t.2.accepts_iff v).mp accepted)
    · have one : typeIssues index t (some v) = [typeIssue index t v] := by simp [typeIssues, accepted]
      have other : v.typeName ∉ t.2.instances := mt (t.2.accepts_iff v).mpr accepted
      rw [one]
      refine .one (index, position) fun p i => ⟨?_, ?_⟩
      · rintro ⟨rfl, v', same, -, rfl⟩
        cases same
        exact ⟨rfl, rfl⟩
      · rintro ⟨rfl, rfl⟩
        exact ⟨rfl, v, rfl, other, rfl⟩

theorem exactly_checkItems (types : List (String × Expectation)) (records : List (List (Value × Value))) :
    ∃ issues, checkItems (named types) 0 (records.map .record) = .ok issues ∧
      Exactly InOrder (Mistyped types records) issues := by
  refine ⟨_, checkItems_records records 0, ?_⟩
  have fields (index : Nat) (fs : List (Value × Value)) := Exactly.walk
    (fun position t => exactly_typeIssues fs index position t) (by
      rintro k t p i l t' q j earlier ⟨rfl, -⟩ ⟨rfl, -⟩
      exact .right index earlier) types 0
  refine (Exactly.walk fields ?_ records 0).congr fun p i => ?_
  · rintro k fs p i l fs' q j earlier ⟨_, _, -, rfl, -⟩ ⟨_, _, -, rfl, -⟩
    exact .left _ _ earlier
  · constructor
    · rintro ⟨index, fs, record, position, ⟨name, expected⟩, typed, rfl, v, there, other, rfl⟩
      rw [Nat.zero_add, Nat.zero_add]
      exact ⟨record, typed, there, other⟩
    · rintro ⟨record, typed, there, other⟩
      exact ⟨_, _, record, _, _, typed, by rw [Nat.zero_add, Nat.zero_add], _, there, other, by rw [Nat.zero_add]⟩

end Output

section Verdicts

theorem accepts_iff_of_strict (c : Contract) {issues : List Issue} (strict : ∀ i ∈ issues, i.severity = .strict) :
    c.accepts issues = true ↔ issues = [] := by
  unfold accepts
  cases c.level with
  | strict => exact List.isEmpty_iff
  | warning =>
    cases issues with
    | nil => simp
    | cons i issues => simp [strict i List.mem_cons_self]

theorem NoRecord.severity {items : List Value} {place : Nat} {i : Issue} (h : NoRecord items place i) :
    i.severity = .strict := by
  cases h
  rfl

theorem Mistyped.severity {types : List (String × Expectation)} {records : List (List (Value × Value))}
    {place : Nat × Nat} {i : Issue} (h : Mistyped types records place i) : i.severity = .strict := by
  cases h
  rfl

theorem Exactly.forall_mem {ι : Type} {before : ι → ι → Prop} {found : ι → Issue → Prop} {issues : List Issue}
    {P : Issue → Prop} (h : Exactly before found issues) (each : ∀ place i, found place i → P i) :
    ∀ i ∈ issues, P i := by
  obtain ⟨told, -, rfl, all⟩ := h
  intro i member
  obtain ⟨⟨place, _⟩, there, rfl⟩ := List.mem_map.mp member
  exact each place _ ((all place _).mp there)

theorem exists_verdict_output (name : String) (level : Strictness) (types : List (String × Expectation))
    (records : List (List (Value × Value))) : ∃ v,
      (validate { name, level, kind := .output (named types) } (.list (records.map .record))).2 = .ok v ∧
        Exactly InOrder (Mistyped types records) v.errors ∧ v.warnings = [] ∧
        (v.isValid = true ↔ v.errors = []) := by
  let c : Contract := { name, level, kind := .output (named types) }
  let data : Value := .list (records.map .record)
  obtain ⟨issues, checked, exactly⟩ := exactly_checkItems types records
  have content : c.content data =
      .ok { errors := issues, metadata := [("typed_fields", .list ((named types).map Prod.fst))] } := by
    simp only [c, data, Contract.content, outputContent, checked]
    rfl
  have judged := @judge_of_looked c data (.inl rfl)
  rw [content] at judged
  refine ⟨_, (c.validate_eq_judge data).trans judged, exactly, rfl, ?_⟩
  exact c.accepts_iff_of_strict (exactly.forall_mem fun _ _ => Mistyped.severity)

theorem exists_verdict_input (name : String) (level : Strictness) (items : List Value) : ∃ v,
    (validate { name, level, kind := .input } (.list items)).2 = .ok v ∧
      Exactly (· < ·) (NoRecord items) v.errors ∧ v.warnings = (if items = [] then [emptyBatch] else []) ∧
      (v.isValid = true ↔ v.errors = []) := by
  let c : Contract := { name, level, kind := .input }
  have exactly := exactly_checkRecords items
  have valid := c.accepts_iff_of_strict (exactly.forall_mem fun _ _ => NoRecord.severity)
  have content : c.content (.list items) = .ok { warnings := if items.length = 0 then [emptyBatch] else [] } := rfl
  by_cases looked : (c.schema (.list items)).errors = [] ∨ c.level = .warning
  · have judged := judge_of_looked looked
    rw [content] at judged
    refine ⟨_, (c.validate_eq_judge _).trans judged, ?_⟩
    simp only [verdict, List.append_nil]
    refine ⟨exactly, ?_, valid⟩
    simp [c, schema, inputSchema, List.length_eq_zero_iff]
  · have judged := judge_of_passed_over looked
    refine ⟨_, (c.validate_eq_judge _).trans judged, ?_⟩
    simp only [verdict, List.append_nil]
    refine ⟨exactly, ?_, valid⟩
    have some : items ≠ [] := by
      rintro rfl
      exact looked (.inl rfl)
    rw [if_neg some]
    rfl

/-- On records, an output contract reports the typed fields with a value of another type and nothing
else; on a list, an input contract reports the items that are no records and warns of an empty list.
The level makes no difference, and what is accepted is what nothing is reported of. -/
theorem verdicts_exact (name : String) (level : Strictness) :
    (∀ (types : List (String × Expectation)) (records : List (List (Value × Value))), ∃ v,
      (validate { name, level, kind := .output (named types) } (.list (records.map .record))).2 = .ok v ∧
        Exactly InOrder (Mistyped types records) v.errors ∧ v.warnings = [] ∧
        (v.isValid = true ↔ v.errors = [])) ∧
    ∀ items : List Value, ∃ v, (validate { name, level, kind := .input } (.list items)).2 = .ok v ∧
      Exactly (· < ·) (NoRecord items) v.errors ∧ v.warnings = (if items = [] then [emptyBatch] else []) ∧
      (v.isValid = true ↔ v.errors = []) :=
  ⟨exists_verdict_output name level, exists_verdict_input name level⟩

end Verdicts

end Contract

end RecordPipeline
