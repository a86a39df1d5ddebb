import Mathlib.Data.List.TakeDrop
import RecordPipeline.Json.Reader
import RecordPipeline.Proofs.Outcome
import RecordPipeline.Proofs.Text.Numeral
import RecordPipeline.Proofs.Value.Key
set_option autoImplicit false

/-!
The values that documents hold. Their whole numbers are within the digit limit, the keys of their
records are texts that differ pairwise, and they are nested no deeper than the reader goes.
-/

namespace RecordPipeline

open Value (IsDict putEntry atKey?)

namespace Value

theorem mem_putEntry {key new : Value} {es : List (Value × Value)} {e : Value × Value}
    (h : e ∈ putEntry key new es) : e ∈ es ∨ e.2 = new ∧ (e.1 = key ∨ ∃ e' ∈ es, e.1 = e'.1) := by
  induction es with
  | nil =>
    obtain rfl := List.mem_singleton.mp h
    exact .inr ⟨rfl, .inl rfl⟩
  | cons e₀ es ih =>
    obtain ⟨k, old⟩ := e₀
    simp only [putEntry] at h
    split at h
    · rcases List.mem_cons.mp h with rfl | later
      · exact .inr ⟨rfl, .inr ⟨_, List.mem_cons_self, rfl⟩⟩
      · exact .inl (List.mem_cons_of_mem _ later)
    · rcases List.mem_cons.mp h with rfl | later
      · exact .inl List.mem_cons_self
      · rcases ih later with there | ⟨value, place⟩
        · exact .inl (List.mem_cons_of_mem _ there)
        · refine .inr ⟨value, place.imp_right ?_⟩
          rintro ⟨e', member, same⟩
          exact ⟨e', List.mem_cons_of_mem _ member, same⟩

theorem depthAll_le_iff {n : Nat} {xs : List Value} : depthAll xs ≤ n ↔ ∀ x ∈ xs, x.depth ≤ n := by
  induction xs with
  | nil => simp [depthAll]
  | cons x xs ih => rw [depthAll, max_le_iff, ih, List.forall_mem_cons]

theorem depthFields_le_iff {n : Nat} {fs : List (Value × Value)} :
    depthFields fs ≤ n ↔ ∀ f ∈ fs, f.1.depth ≤ n ∧ f.2.depth ≤ n := by
  induction fs with
  | nil => simp [depthFields]
  | cons f fs ih => rw [depthFields, max_le_iff, max_le_iff, ih, List.forall_mem_cons]

structure IsTextDict (P : Value → Prop) (es : List (Value × Value)) : Prop where
  dict : IsDict es
  texts : ∀ e ∈ es, ∃ s, e.1 = .text s
  values : ∀ e ∈ es, P e.2

variable {P : Value → Prop} {es : List (Value × Value)}

theorem IsTextDict.put (h : IsTextDict P es) (name : String) {new : Value} (value : P new) :
    IsTextDict P (putEntry (.text name) new es) where
  dict := h.dict.put rfl new
  texts := by
    intro e member
    rcases mem_putEntry member with there | ⟨-, key | ⟨e', there, key⟩⟩
    · exact h.texts e there
    · exact ⟨name, key⟩
    · rw [key]
      exact h.texts e' there
  values := by
    intro e member
    rcases mem_putEntry member with there | ⟨rfl, -⟩
    · exact h.values e there
    · exact value

theorem ofPairs_of_isDict (h : IsDict es) : ofPairs es = .record es := by
  have appended : ∀ before, IsDict (before ++ es) →
      es.foldl (fun fs p => putEntry p.1 p.2 fs) before = before ++ es := by
    clear h
    induction es with
    | nil => simp
    | cons e es ih =>
      intro before h
      have absent : atKey? e.1 before = none :=
        atKey?_eq_none_iff.mpr fun e' member =>
          List.pairwise_append.mp h.apart |>.2.2 e' member e List.mem_cons_self
      rw [List.foldl_cons, putEntry_of_atKey?_eq_none absent, ih _ (by simpa using h)]
      simp
  rw [ofPairs, appended [] h]
  rfl

end Value

namespace Json

open Value (IsTextDict)

/-- Values that a document can hold with `room` for nested arrays and objects. -/
inductive Native : Nat → Value → Prop
  | null {room : Nat} : Native room .null
  | bool {room : Nat} (b : Bool) : Native room (.bool b)
  | text {room : Nat} (s : String) : Native room (.text s)
  | int {room : Nat} {n : Int} (short : Numeral.tooLong n = false) : Native room (.int n)
  | float {room : Nat} (d : Double) : Native room (.float d)
  | list {room : Nat} {xs : List Value} (items : ∀ x ∈ xs, Native room x) : Native (room + 1) (.list xs)
  | record {room : Nat} {fs : List (Value × Value)} (dict : IsDict fs)
      (texts : ∀ f ∈ fs, ∃ s, f.1 = .text s) (values : ∀ f ∈ fs, Native room f.2) :
      Native (room + 1) (.record fs)

variable {room fuel : Nat} {cs rest : List Char} {v : Value}

theorem Native.depth_le {v : Value} (h : Native room v) : v.depth ≤ room := by
  induction h with
  | list _ ih =>
    rw [Value.depth]
    exact Nat.succ_le_succ (Value.depthAll_le_iff.mpr ih)
  | record _ texts _ ih =>
    rw [Value.depth]
    refine Nat.succ_le_succ (Value.depthFields_le_iff.mpr fun f member => ⟨?_, ih f member⟩)
    obtain ⟨s, key⟩ := texts f member
    rw [key]
    exact Nat.zero_le _
  | _ => exact Nat.zero_le _

theorem Native.of_depth_le {v : Value} (h : Native room v) {smaller : Nat} (shallow : v.depth ≤ smaller) :
    Native smaller v := by
  induction h generalizing smaller with
  | null => exact .null
  | bool b => exact .bool b
  | text s => exact .text s
  | int short => exact .int short
  | float d => exact .float d
  | list _ ih =>
    obtain _ | smaller := smaller
    · cases shallow
    · have least := Value.depthAll_le_iff.mp (Nat.le_of_succ_le_succ shallow)
      exact .list fun x member => ih x member (least x member)
  | record dict texts _ ih =>
    obtain _ | smaller := smaller
    · cases shallow
    · have least := Value.depthFields_le_iff.mp (Nat.le_of_succ_le_succ shallow)
      exact .record dict texts fun f member => ih f member (least f member).2

theorem Native.items {xs : List Value} (h : Native room (.list xs)) :
    ∃ smaller, smaller + 1 = room ∧ ∀ x ∈ xs, Native smaller x := by
  cases h with
  | list items => exact ⟨_, rfl, items⟩

theorem Native.ofFields {fields : List (String × Value)} (apart : (fields.map Prod.fst).Nodup)
    (values : ∀ f ∈ fields, Native room f.2) : Native (room + 1) (Value.ofFields fields) := by
  refine .record (.of_names apart (by simp [Function.comp_def])) ?_ ?_
  · exact List.forall_mem_map.mpr fun f _ => ⟨f.1, rfl⟩
  · exact List.forall_mem_map.mpr values

end Json

end RecordPipeline
