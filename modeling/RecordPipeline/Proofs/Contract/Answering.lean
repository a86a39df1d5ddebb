import Mathlib.Data.List.Infix
import RecordPipeline.Contract.Basic
import RecordPipeline.Proofs.Outcome
set_option autoImplicit false

/-!
Contracts that come to a verdict, and those that fail over what they are given. A contract that is
not strict goes on to the content of a batch whose container is wrong, and the items of a list are
searched for typed fields whatever they are.
-/

namespace RecordPipeline

theorem Text.occursIn_iff {part cs : List Char} : occursIn part cs = true ↔ part <:+: cs := by
  induction cs with
  | nil => simp [occursIn]
  | cons c cs ih => rw [occursIn, Bool.or_eq_true, List.isPrefixOf_iff_prefix, ih, List.infix_cons_iff]

namespace Value

def IsBatch : Value → Prop
  | .list _ | .table _ _ => True
  | _ => False

def IsSized : Value → Prop
  | .text _ | .bytes _ | .list _ | .tuple _ | .record _ | .table _ _ => True
  | _ => False

theorem IsBatch.isSized {v : Value} (batch : v.IsBatch) : v.IsSized := by
  cases v with
  | list | table => trivial
  | _ => exact batch.elim

theorem exists_length_iff {v : Value} : (∃ n, v.length = .ok n) ↔ v.IsSized := by
  cases v <;> simp [length, IsSized]

end Value

namespace Contract

/-- A field can be looked up in an item. Where a text, a list or a tuple holds the name, there is
nothing to be taken out under it. Items are compared with the name, which a table cannot be, and no
other value but a record or a table can be searched. -/
inductive Searchable (name : String) : Value → Prop
  | record (fields : List (Value × Value)) : Searchable name (.record fields)
  | table (columns : List String) (rows : List (List Value)) : Searchable name (.table columns rows)
  | text {s : String} (absent : ¬ name.toList <:+: s.toList) : Searchable name (.text s)
  | list {xs : List Value} (absent : .text name ∉ xs) (comparable : ∀ x ∈ xs, x.isTable = false) :
    Searchable name (.list xs)
  | tuple {xs : List Value} (absent : .text name ∉ xs) (comparable : ∀ x ∈ xs, x.isTable = false) :
    Searchable name (.tuple xs)

section Items

variable {name : String} {item : Value}

theorem equal_text_eq_false_iff {x : Value} :
    x.equal (.text name) = .ok false ↔ x ≠ .text name ∧ x.isTable = false := by
  cases x <;> simp [Value.equal, Value.parts?, Value.isTable]

theorem searchItems_eq_ok_iff {container : String} {xs : List Value} {found : Option Value} :
    searchItems container (.text name) xs = .ok found ↔
      found = none ∧ ∀ x ∈ xs, x.equal (.text name) = .ok false := by
  induction xs with
  | nil => simp [searchItems, eq_comm]
  | cons x xs ih =>
    rw [searchItems, List.forall_mem_cons]
    rcases x.equal (.text name) with fault | (_ | _)
    · simp [bind, Except.bind]
    · simp [bind, Except.bind, ih]
    · simp [bind, Except.bind, throw, throwThe, MonadExceptOf.throw]

theorem exists_searchItems_iff {container : String} {xs : List Value} :
    (∃ found, searchItems container (.text name) xs = .ok found) ↔
      .text name ∉ xs ∧ ∀ x ∈ xs, x.isTable = false := by
  simp only [searchItems_eq_ok_iff, exists_eq_left, equal_text_eq_false_iff]
  constructor
  · exact fun apart => ⟨fun there => (apart _ there).1 rfl, fun x member => (apart x member).2⟩
  · exact fun ⟨absent, comparable⟩ x member => ⟨fun same => absent (same ▸ member), comparable x member⟩

theorem exists_lookUp_iff : (∃ found, lookUp (.text name) item = .ok found) ↔ Searchable name item := by
  constructor
  · rintro ⟨found, looked⟩
    cases item with
    | record fs => exact .record fs
    | table columns rows => exact .table columns rows
    | text s =>
      refine .text fun occurs => ?_
      simp [lookUp, Text.occursIn_iff.mpr occurs] at looked
    | list xs =>
      obtain ⟨absent, comparable⟩ := exists_searchItems_iff.mp ⟨found, looked⟩
      exact .list absent comparable
    | tuple xs =>
      obtain ⟨absent, comparable⟩ := exists_searchItems_iff.mp ⟨found, looked⟩
      exact .tuple absent comparable
    | _ => cases looked
  · intro searchable
    cases searchable with
    | record | table => exact ⟨_, rfl⟩
    | text absent => exact ⟨none, by simp [lookUp, mt Text.occursIn_iff.mp absent]⟩
    | list absent comparable | tuple absent comparable => exact exists_searchItems_iff.mpr ⟨absent, comparable⟩

def typeIssue (index : Nat) (t : String × Expectation) (found : Value) : Issue :=
  { field := position index ++ "." ++ t.1
    kind := "wrong_type"
    message := "Field '" ++ t.1 ++ "' has type " ++ found.typeName
    severity := .strict
    actual := some found.typeName
    expected := some t.2 }

def typeIssues (index : Nat) (t : String × Expectation) (found : Option Value) : List Issue :=
  ((found.filter fun v => !t.2.accepts v).map (typeIssue index t)).toList

def named (types : List (String × Expectation)) : List (Value × Expectation) := types.map fun t => (.text t.1, t.2)

theorem checkFields_named_cons (index : Nat) (item : Value) (t : String × Expectation)
    (types : List (String × Expectation)) :
    checkFields index item (named (t :: types)) = do
      let found ← lookUp (.text t.1) item
      let others ← checkFields index item (named types)
      return typeIssues index t found ++ others := by
  rw [named, List.map_cons, checkFields, ← named]
  cases lookUp (.text t.1) item with
  | error fault => rfl
  | ok found =>
    cases found with
    | none => rfl
    | some v =>
      by_cases accepted : t.2.accepts v = true
      · simp [typeIssues, Option.filter_some, accepted, bind, Except.bind, pure, Except.pure]
      · simp [typeIssues, typeIssue, Option.filter_some, accepted, wrongType, Value.plain, bind, Except.bind, pure,
          Except.pure]

variable {types : List (String × Expectation)}

theorem exists_checkFields_iff (index : Nat) :
    (∃ issues, checkFields index item (named types) = .ok issues) ↔ ∀ t ∈ types, Searchable t.1 item := by
  induction types with
  | nil => exact iff_of_true ⟨[], rfl⟩ (by simp)
  | cons t types ih =>
    rw [List.forall_mem_cons, ← exists_lookUp_iff, ← ih, checkFields_named_cons]
    constructor
    · rintro ⟨issues, checked⟩
      obtain ⟨found, looked, checked⟩ := exists_of_bind_eq_ok checked
      obtain ⟨others, later, -⟩ := exists_of_bind_eq_ok checked
      exact ⟨⟨found, looked⟩, others, later⟩
    · rintro ⟨⟨found, looked⟩, others, later⟩
      exact ⟨_, by rw [looked, later]; rfl⟩

theorem exists_checkItems_iff {items : List Value} (index : Nat) :
    (∃ issues, checkItems (named types) index items = .ok issues) ↔
      ∀ item ∈ items, ∀ t ∈ types, Searchable t.1 item := by
  induction items generalizing index with
  | nil => exact iff_of_true ⟨[], rfl⟩ (by simp)
  | cons item items ih =>
    rw [List.forall_mem_cons, ← exists_checkFields_iff index, ← ih (index + 1), checkItems]
    constructor
    · rintro ⟨issues, checked⟩
      obtain ⟨here, first, checked⟩ := exists_of_bind_eq_ok checked
      obtain ⟨others, later, -⟩ := exists_of_bind_eq_ok checked
      exact ⟨⟨here, first⟩, others, later⟩
    · rintro ⟨⟨here, first⟩, others, later⟩
      exact ⟨_, by rw [first, later]; rfl⟩

end Items

section Stages

variable {c : Contract} {data : Value}

/-- What a contract makes of its two stages. -/
def verdict (c : Contract) (data : Value) (second : Findings) : Verdict :=
  let first := c.schema data
  { isValid := c.accepts (first.errors ++ second.errors)
    errors := first.errors ++ second.errors
    warnings := first.warnings ++ second.warnings
    metadata :=
      [("schema_validation", Value.ofFields first.metadata), ("content_validation", Value.ofFields second.metadata),
        ("validation_level", .text c.level.name), ("data_type", .text data.typeName)] }

theorem judge_of_looked (looked : (c.schema data).errors = [] ∨ c.level = .warning) :
    c.judge data = (c.content data).map (c.verdict data) := by
  have looked : ((c.schema data).errors.isEmpty || decide (c.level ≠ .strict)) = true := by
    rcases looked with sound | warning
    · simp [sound]
    · simp [warning]
  rw [judge, if_pos looked]
  rfl

theorem judge_of_passed_over (passed : ¬ ((c.schema data).errors = [] ∨ c.level = .warning)) :
    c.judge data = .ok (c.verdict data {}) := by
  have passed : ¬ ((c.schema data).errors.isEmpty || decide (c.level ≠ .strict)) = true := by
    cases level : c.level <;> simp_all
  rw [judge, if_neg passed]
  rfl

theorem validate_eq_judge (c : Contract) (data : Value) : (c.validate data).2 = c.judge data :=
  c.check.snd_validate data

/-- A contract comes to a verdict on what it is given. -/
def Answers (c : Contract) (data : Value) : Prop := ∃ v, (c.validate data).2 = .ok v

theorem answers_iff : c.Answers data ↔
    ((c.schema data).errors = [] ∨ c.level = .warning → ∃ found, c.content data = .ok found) := by
  rw [Answers, validate_eq_judge]
  by_cases looked : (c.schema data).errors = [] ∨ c.level = .warning
  · rw [judge_of_looked looked]
    cases c.content data <;> simp [looked, Except.map]
  · exact iff_of_true ⟨_, judge_of_passed_over looked⟩ fun h => absurd h looked

theorem exists_verdict_of_validate {v : Verdict} (judged : (c.validate data).2 = .ok v) :
    ∃ second, v = c.verdict data second ∧ (second = {} ∨ c.content data = .ok second) := by
  rw [validate_eq_judge] at judged
  by_cases looked : (c.schema data).errors = [] ∨ c.level = .warning
  · rw [judge_of_looked looked] at judged
    cases content : c.content data with
    | error fault =>
      rw [content] at judged
      cases judged
    | ok second =>
      rw [content] at judged
      cases judged
      exact ⟨second, rfl, .inr rfl⟩
  · rw [judge_of_passed_over looked] at judged
    cases judged
    exact ⟨{}, rfl, .inl rfl⟩

end Stages

section Container

variable {c : Contract} {data : Value}

theorem schema_of_not_isBatch (other : ¬ data.IsBatch) : (c.schema data).errors = [wrongContainer data] := by
  obtain ⟨name, level, kind⟩ := c
  cases data with
  | list | table => exact absurd trivial other
  | _ => cases kind <;> rfl

theorem content_of_not_isBatch (other : ¬ data.IsBatch) {found : Findings} (looked : c.content data = .ok found) :
    found.errors = [] := by
  obtain ⟨name, level, kind⟩ := c
  cases kind with
  | input =>
    obtain ⟨size, -, same⟩ := exists_of_bind_eq_ok looked
    cases same
    rfl
  | output =>
    cases data with
    | list | table => exact absurd trivial other
    | _ =>
      cases looked
      rfl

theorem refused_of_not_isBatch (other : ¬ data.IsBatch) {v : Verdict} (judged : (c.validate data).2 = .ok v) :
    v.isValid = false ∧ v.errors = [wrongContainer data] := by
  obtain ⟨second, rfl, looked⟩ := exists_verdict_of_validate judged
  have none : second.errors = [] := by
    rcases looked with rfl | looked
    · rfl
    · exact content_of_not_isBatch other looked
  have only : (c.schema data).errors ++ second.errors = [wrongContainer data] := by
    rw [schema_of_not_isBatch other, none, List.append_nil]
  refine ⟨?_, only⟩
  rw [verdict, only, accepts]
  cases c.level <;> rfl

theorem isBatch_of_schema (sound : (c.schema data).errors = []) : data.IsBatch := by
  by_contra other
  rw [schema_of_not_isBatch other] at sound
  cases sound

theorem exists_inputContent_iff : (∃ found, inputContent data = .ok found) ↔ data.IsSized := by
  rw [← Value.exists_length_iff, inputContent]
  cases data.length <;> simp [bind, Except.bind, pure, Except.pure]

theorem exists_outputContent_iff {types : List (String × Expectation)} :
    (∃ found, outputContent (named types) data = .ok found) ↔
      ∀ items, data = .list items → ∀ item ∈ items, ∀ t ∈ types, Searchable t.1 item := by
  cases data with
  | list items =>
    have each : (∃ found, outputContent (named types) (.list items) = .ok found) ↔
        ∃ issues, checkItems (named types) 0 items = .ok issues := by
      rw [outputContent]
      cases checkItems (named types) 0 items <;> simp [bind, Except.bind, pure, Except.pure]
    rw [each, exists_checkItems_iff]
    simp
  | _ => exact iff_of_true ⟨_, rfl⟩ nofun

/-- An input contract comes to a verdict unless it is not strict and its data has no number of
items. An output contract does unless its data is a list with an item that cannot be searched for
one of the typed fields. A verdict on anything but a list or a table is that it is no batch. -/
theorem answers_exactly (name : String) (level : Strictness) (types : List (String × Expectation)) (data : Value) :
    (Answers { name, level, kind := .input } data ↔ (level = .warning → data.IsSized)) ∧
    (Answers { name, level, kind := .output (named types) } data ↔
      ∀ items, data = .list items → ∀ item ∈ items, ∀ t ∈ types, Searchable t.1 item) ∧
    ∀ (c : Contract) (v : Verdict), ¬ data.IsBatch → (c.validate data).2 = .ok v →
      v.isValid = false ∧ v.errors = [wrongContainer data] := by
  refine ⟨?_, ?_, fun c v other judged => refused_of_not_isBatch other judged⟩
  · rw [answers_iff]
    constructor
    · intro looked warning
      exact exists_inputContent_iff.mp (looked (.inr warning))
    · rintro sized (sound | warning)
      · exact exists_inputContent_iff.mpr (isBatch_of_schema sound).isSized
      · exact exists_inputContent_iff.mpr (sized warning)
  · rw [answers_iff, ← exists_outputContent_iff]
    constructor
    · intro looked
      cases data with
      | list | table => exact looked (.inl rfl)
      | _ => exact ⟨_, rfl⟩
    · exact fun content _ => content

theorem answers_exactly_number :
    let c : Contract := { name := "input", kind := .input }
    ¬ (Value.int 42).IsBatch ∧ ∃ v, (c.validate (.int 42)).2 = .ok v ∧ v.isValid = false := by
  intro c
  have other : ¬ (Value.int 42).IsBatch := id
  obtain ⟨exactly, -, refused⟩ := answers_exactly "input" .strict [] (.int 42)
  obtain ⟨v, judged⟩ := exactly.mpr nofun
  exact ⟨other, v, judged, (refused c v other judged).1⟩

/-- A contract that is not strict counts the items of a number. -/
theorem not_always_answers : ¬ ∀ (c : Contract) (data : Value), c.Answers data := by
  intro always
  obtain ⟨v, judged⟩ := always { name := "input", level := .warning, kind := .input } (.int 42)
  cases judged

example : (validate { name := "output", kind := .output (named [("speed", .one .float)]) } (.list [.int 5])).2 =
    .error (.notSearchable "int") := rfl

end Container

end Contract

end RecordPipeline
