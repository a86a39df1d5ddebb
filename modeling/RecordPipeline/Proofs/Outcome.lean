import RecordPipeline.Fault
set_option autoImplicit false

namespace RecordPipeline

theorem exists_of_bind_eq_ok {ε α β : Type} {x : Except ε α} {f : α → Except ε β} {b : β}
    (h : (x >>= f) = .ok b) : ∃ a, x = .ok a ∧ f a = .ok b := by
  cases x with
  | error e => cases h
  | ok a => exact ⟨a, rfl, h⟩

theorem eq_ok_of_mapError_eq_ok {ε ε' α : Type} {x : Except ε α} {f : ε → ε'} {a : α}
    (h : x.mapError f = .ok a) : x = .ok a := by
  cases x with
  | error e => cases h
  | ok b =>
    cases h
    rfl

/-- An outcome that is always there, and tells whether something holds. -/
def Decides {ε : Type} (x : Except ε Bool) (P : Prop) : Prop := ∃ t, x = .ok t ∧ (t = true ↔ P)

section Decides

variable {ε : Type} {x y : Except ε Bool} {P Q : Prop}

theorem decides_decide [Decidable P] : Decides (.ok (decide P) : Except ε Bool) P := ⟨_, rfl, decide_eq_true_iff⟩

theorem decides_true (h : P) : Decides (.ok true : Except ε Bool) P := ⟨_, rfl, by simp [h]⟩

theorem decides_false (h : ¬ P) : Decides (.ok false : Except ε Bool) P := ⟨_, rfl, by simp [h]⟩

theorem Decides.congr (h : Decides x P) (same : P ↔ Q) : Decides x Q := by
  obtain ⟨t, run, told⟩ := h
  exact ⟨t, run, told.trans same⟩

theorem Decides.eq_true_iff (h : Decides x P) : x = .ok true ↔ P := by
  obtain ⟨t, rfl, told⟩ := h
  rw [← told]
  simp

theorem Decides.and (h : Decides x P) (h' : Decides y Q) :
    Decides (do if ← x then y else return false) (P ∧ Q) := by
  obtain ⟨t, rfl, told⟩ := h
  cases t with
  | true =>
    obtain ⟨u, rfl, told'⟩ := h'
    exact ⟨u, rfl, by simp [told', told.mp rfl]⟩
  | false => exact ⟨false, rfl, by simp [← told]⟩

theorem Decides.unless (h : Decides x P) (h' : Decides y Q) :
    Decides (do if !(← x) then return false else y) (P ∧ Q) := by
  have both := h.and h'
  obtain ⟨t, rfl, -⟩ := h
  cases t <;> exact both

end Decides

end RecordPipeline
