import RecordPipeline.Failure.Builder
import RecordPipeline.Proofs.Failure.Build
import RecordPipeline.Proofs.Failure.Equality
import RecordPipeline.Proofs.Moment.Order
set_option autoImplicit false

namespace RecordPipeline

namespace FailureRecord

open Failure (Draft Field Part)
open Timestamp (accepts format)

/-- Parts that two drafts have in common: they hold one and the same thing, or values that are the
same. -/
def Agree (shared : Field → Bool) (d e : Draft) : Prop :=
  ∀ part, shared part.field = true ∨
    (d.get part).IsComparable ∧ (e.get part).IsComparable ∧ Value.Same (d.get part) (e.get part)

variable {shared : Field → Bool} {d e : Draft} {m n : Moment}

theorem Agree.equalField (agree : Agree shared d e) (part : Part) :
    equalField (shared part.field) (d.get part) (e.get part) = .ok true := by
  unfold FailureRecord.equalField
  rcases agree part with one | ⟨comparable, comparable', same⟩
  · rw [one]
    rfl
  · rw [(comparable.decides_equal comparable').eq_true_iff.mpr same, ite_self]

theorem decides_equal_stamped (agree : Agree shared d e) :
    Decides ((d.stamped m).equal shared (e.stamped n)) (format m = format n) := by
  have pluginId := agree.equalField .pluginId
  have pluginName := agree.equalField .pluginName
  have pipelineName := agree.equalField .pipelineName
  have failedData := agree.equalField .failedData
  simp only [Part.field, Draft.get] at pluginId pluginName pipelineName failedData
  simp only [equal, Draft.stamped, pluginId, pluginName, pipelineName, failedData]
  exact decides_decide

/-- Timestamps keep the order of moments to the millisecond and leave out none that is valid, so
records built from the same parts are equal exactly if they were built in the same millisecond. -/
theorem timestamps_keep_order :
    (∀ m n : Moment, 1000 ≤ m.year → 1000 ≤ n.year →
      (format m < format n ↔ m.cut.microseconds < n.cut.microseconds) ∧
      (format m = format n ↔ m.cut = n.cut) ∧
      (format n < format m ↔ n.cut.microseconds < m.cut.microseconds)) ∧
    (∀ s, accepts (.text s) = true → 1000 ≤ Numeral.value (s.toList.take 4) → ∃ m, format m = s) ∧
    ∀ (d e : Draft) (m n : Moment) (r r' : FailureRecord) (shared : Field → Bool),
      Agree shared d e → build d m = .ok r → build e n = .ok r' → Decides (r.equal shared r') (m.cut = n.cut) := by
  refine ⟨?_, ?_, ?_⟩
  · intro m n late late'
    exact ⟨Timestamp.format_lt_iff late late', Timestamp.format_eq_iff late late',
      Timestamp.format_lt_iff late' late⟩
  · intro s valid late
    exact Timestamp.exists_format_eq valid late
  · intro d e m n r r' shared agree built built'
    obtain ⟨-, late, rfl⟩ := build_eq_ok_iff.mp built
    obtain ⟨-, late', rfl⟩ := build_eq_ok_iff.mp built'
    exact (decides_equal_stamped agree).congr (Timestamp.format_eq_iff late late')

theorem timestamps_keep_order_new_year :
    let last : Moment := ⟨1999, 12, 31, 23, 59, 59, 999999, by decide⟩
    let first : Moment := ⟨2000, 1, 1, 0, 0, 0, 0, by decide⟩
    let soon : Moment := ⟨2000, 1, 1, 0, 0, 0, 999, by decide⟩
    let draft (key : Value) : Draft :=
      { pluginId := .text "p", pluginName := .text "parser", pipelineName := .text "telemetry"
        failedData := .record [(key, .null)] }
    format last < format first ∧ (∃ m, format m = "2000-02-29T12:00:00.000Z") ∧
      ∃ r r', build (draft (.int 1)) first = .ok r ∧ build (draft (.bool true)) soon = .ok r' ∧
        r.equal (fun field => field ≠ .failedData) r' = .ok true := by
  intro last first soon draft
  obtain ⟨order, onto, built⟩ := timestamps_keep_order
  have keys : Value.Same (.int 1) (.bool true) := .number rfl (by simp [Value.number?])
  have comparable {key : Value} {x : Extended × Extended} (hashable : key.keyFault? = none)
      (h : key.number? = some x) : (Value.record [(key, .null)]).IsComparable :=
    .record ⟨by simpa using hashable, List.pairwise_singleton _ _⟩ (List.forall_mem_singleton.mpr (.number h))
      (List.forall_mem_singleton.mpr .null)
  have agree : Agree (fun field => field ≠ .failedData) (draft (.int 1)) (draft (.bool true)) := by
    rintro (_ | _ | _ | _)
    case failedData =>
      exact .inr ⟨comparable rfl rfl, comparable rfl rfl, .record (.refl _) (.cons (.intro keys .null) .nil)⟩
    all_goals exact .inl rfl
  have one : build (draft (.int 1)) first = .ok _ := build_eq_ok rfl (by decide)
  have other : build (draft (.bool true)) soon = .ok _ := build_eq_ok rfl (by decide)
  have decided := built _ _ first soon _ _ _ agree one other
  have instant : first.cut = soon.cut := Moment.cut_eq_iff.mpr (by decide)
  exact ⟨(order last first (by decide) (by decide)).1.mpr (by decide), onto _ (by decide) (by decide), _, _, one,
    other, decided.eq_true_iff.mpr instant⟩

end FailureRecord

end RecordPipeline
