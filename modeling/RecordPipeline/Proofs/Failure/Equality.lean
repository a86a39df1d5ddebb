import RecordPipeline.Failure.Record
import RecordPipeline.Proofs.Value.Same
set_option autoImplicit false

namespace RecordPipeline

namespace FailureRecord

open Failure (Field)

def get (r : FailureRecord) : Field → Value
  | .pluginId => r.pluginId
  | .pluginName => r.pluginName
  | .pipelineName => r.pipelineName
  | .failedData => r.failedData
  | .timestamp => .text r.timestamp

/-- Each field holds comparable values only. -/
def IsComparable (r : FailureRecord) : Prop := ∀ field, (r.get field).IsComparable

def Same (a b : FailureRecord) : Prop := ∀ field, Value.Same (a.get field) (b.get field)

/-- What two records share stands in both of them. -/
def Shares (shared : Field → Bool) (a b : FailureRecord) : Prop :=
  ∀ field, shared field = true → a.get field = b.get field

variable {shared : Field → Bool} {a b c : FailureRecord}

theorem Same.symm (h : a.Same b) : b.Same a := fun field => (h field).symm

theorem Same.trans (h : a.Same b) (h' : b.Same c) : a.Same c := fun field => (h field).trans (h' field)

theorem IsComparable.same_refl (h : a.IsComparable) : a.Same a := fun field => (h field).same_refl

theorem decides_equalField {v w : Value} {one : Bool} (hv : v.IsComparable) (hw : w.IsComparable)
    (same : one = true → v = w) : Decides (equalField one v w) (Value.Same v w) := by
  unfold equalField
  split
  · rename_i one
    obtain rfl := same one
    exact decides_true hv.same_refl
  · exact hv.decides_equal hw

theorem same_iff :
    a.Same b ↔
      Value.Same a.pluginId b.pluginId ∧ Value.Same a.pluginName b.pluginName ∧
        Value.Same a.pipelineName b.pipelineName ∧ Value.Same a.failedData b.failedData ∧
        a.timestamp = b.timestamp := by
  constructor
  · intro h
    exact ⟨h .pluginId, h .pluginName, h .pipelineName, h .failedData, Value.same_text_iff.mp (h .timestamp)⟩
  · rintro ⟨pluginId, pluginName, pipelineName, failedData, timestamp⟩ (_ | _ | _ | _ | _)
    · exact pluginId
    · exact pluginName
    · exact pipelineName
    · exact failedData
    · exact Value.same_text_iff.mpr timestamp

theorem decides_equal (ha : a.IsComparable) (hb : b.IsComparable) (sharing : Shares shared a b) :
    Decides (a.equal shared b) (a.Same b) := by
  have field (f : Field) := decides_equalField (ha f) (hb f) (sharing f)
  refine Decides.congr ?_ same_iff.symm
  exact (field .pluginId).unless <| (field .pluginName).unless <| (field .pipelineName).unless <|
    (field .failedData).unless decides_decide

/-- Equality of comparable records is an equivalence, by which records are equal if they are the
same field by field. Being different is its negation. -/
theorem equal_equivalence (ha : a.IsComparable) (hb : b.IsComparable) (hc : c.IsComparable) :
    (∀ shared, a.equal shared a = .ok true) ∧
    (∀ shared, Shares shared a b →
      ∃ t, a.equal shared b = .ok t ∧ a.differ shared b = .ok (!t) ∧ (t = true ↔ a.Same b)) ∧
    (∀ shared shared', Shares shared a b → Shares shared' b a → a.equal shared b = b.equal shared' a) ∧
    ∀ ab bc ac, Shares ab a b → Shares bc b c → Shares ac a c →
      a.equal ab b = .ok true → b.equal bc c = .ok true → a.equal ac c = .ok true := by
  refine ⟨?_, ?_, ?_, ?_⟩
  · intro shared
    exact (decides_equal ha ha fun _ _ => rfl).eq_true_iff.mpr ha.same_refl
  · intro shared sharing
    obtain ⟨t, run, told⟩ := decides_equal ha hb sharing
    exact ⟨t, run, by rw [differ, run]; rfl, told⟩
  · intro shared shared' sharing sharing'
    obtain ⟨t, run, told⟩ := decides_equal ha hb sharing
    obtain ⟨t', run', told'⟩ := decides_equal hb ha sharing'
    have both : t = t' := Bool.eq_iff_iff.mpr (told.trans (Iff.trans ⟨.symm, .symm⟩ told'.symm))
    rw [run, run', both]
  · intro ab bc ac sharing sharing' sharing'' first second
    have same := (decides_equal ha hb sharing).eq_true_iff.mp first
    have same' := (decides_equal hb hc sharing').eq_true_iff.mp second
    exact (decides_equal ha hc sharing'').eq_true_iff.mpr (same.trans same')

theorem equal_equivalence_numbers :
    let one : Double := .finite false (2 ^ (52 : Nat)) (-52) (by decide)
    let record (payload : Value) : FailureRecord :=
      { pluginId := .text "p", pluginName := .text "parser", pipelineName := .text "telemetry",
        failedData := payload
        timestamp := "2024-01-02T03:04:05.006Z" }
    let a := record (.record [(.int 1, .list [.float one]), (.text "k", .tuple [.decimal (.finite false 10 (-1))])])
    let b := record (.record [(.text "k", .tuple [.bool true]), (.float one, .list [.fraction 1])])
    let c := record (.record [(.bool true, .list [.complex one (.zero true)]), (.text "k", .tuple [.int 1])])
    a.equal (fun _ => false) b = .ok true ∧ b.equal (fun _ => false) c = .ok true ∧
      a.equal (fun _ => false) c = .ok true ∧ c.differ (fun _ => false) a = .ok false := by
  intro one record a b c
  have comparable {payload : Value} (h : payload.IsComparable) : (record payload).IsComparable := by
    rintro (_ | _ | _ | _ | _)
    case failedData => exact h
    all_goals exact .text _
  have number {v : Value} {x : Extended × Extended} (h : v.number? = some x) : ∀ w ∈ [v], w.IsComparable :=
    List.forall_mem_singleton.mpr (.number h)
  have ha : a.IsComparable := by
    refine comparable (.record ⟨by decide, by decide⟩ ?_ ?_) <;> simp only [List.forall_mem_cons]
    · exact ⟨.number rfl, .text _, by simp⟩
    · exact ⟨.list (number rfl), .tuple (number rfl), by simp⟩
  have hb : b.IsComparable := by
    refine comparable (.record ⟨by decide, by decide⟩ ?_ ?_) <;> simp only [List.forall_mem_cons]
    · exact ⟨.text _, .number rfl, by simp⟩
    · exact ⟨.tuple (number rfl), .list (number rfl), by simp⟩
  have hc : c.IsComparable := by
    refine comparable (.record ⟨by decide, by decide⟩ ?_ ?_) <;> simp only [List.forall_mem_cons]
    · exact ⟨.number rfl, .text _, by simp⟩
    · exact ⟨.list (number rfl), .tuple (number rfl), by simp⟩
  have apart (r r' : FailureRecord) : Shares (fun _ => false) r r' := fun _ one => absurd one Bool.false_ne_true
  have ab : a.equal (fun _ => false) b = .ok true := by decide +kernel
  have bc : b.equal (fun _ => false) c = .ok true := by decide +kernel
  obtain ⟨-, -, turned, -⟩ := equal_equivalence ha hc hb
  obtain ⟨-, -, -, chained⟩ := equal_equivalence ha hb hc
  have ac := chained _ _ _ (apart a b) (apart b c) (apart a c) ab bc
  refine ⟨ab, bc, ac, ?_⟩
  rw [differ, ← turned _ _ (apart a c) (apart c a), ac]
  rfl

end FailureRecord

end RecordPipeline
