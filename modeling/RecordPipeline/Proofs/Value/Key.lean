import RecordPipeline.Proofs.Value.Number
set_option autoImplicit false

/-!
Keys of mappings. Among values that can be keys, naming the same entry is symmetric and transitive,
so in a mapping at most one entry stands under any key, and setting an entry that is there changes
it alone.
-/

namespace RecordPipeline

namespace Value

/-- The shapes that two equal values have. Items of lists and fields of records are left open:
neither is part of a key. -/
inductive Alike : Value → Value → Prop where
  | null : Alike .null .null
  | text (s : String) : Alike (.text s) (.text s)
  | bytes (bs : List UInt8) : Alike (.bytes bs) (.bytes bs)
  | list (xs ys : List Value) : Alike (.list xs) (.list ys)
  | tuple (xs ys : List Value) (items : equalAll xs ys = .ok true) : Alike (.tuple xs) (.tuple ys)
  | record (fs gs : List (Value × Value)) : Alike (.record fs) (.record gs)
  | number {a b : Value} (same : SameNumber a b) : Alike a b

theorem alike_of_equal {a b : Value} (h : equal a b = .ok true) : Alike a b := by
  rw [equal.eq_def] at h
  split at h
  case h_1 => exact .null
  case h_2 s t =>
    obtain rfl : s = t := by simpa using h
    exact .text s
  case h_3 m n =>
    obtain rfl : m = n := by simpa using h
    refine .number ⟨_, _, rfl, rfl, rfl, ?_⟩
    simp [Exact.same, Exact.ofInt, Quantity.same, isTimesTen_iff]
  case h_4 s t =>
    obtain rfl : s = t := by simpa using h
    exact .bytes s
  case h_5 xs ys => exact .list xs ys
  case h_6 xs ys => exact .tuple xs ys h
  case h_7 fs gs => exact .record fs gs
  case h_8 =>
    split at h
    case h_1 p q hp hq => exact .number ⟨p, q, hp, hq, (equalParts_eq_true_iff p q).mp h⟩
    case h_2 => split at h <;> cases h

theorem equalAll_cons_iff {x y : Value} {xs ys : List Value} :
    equalAll (x :: xs) (y :: ys) = .ok true ↔ equal x y = .ok true ∧ equalAll xs ys = .ok true := by
  rw [equalAll]
  rcases equal x y with e | (_ | _) <;> simp [bind, Except.bind, pure, Except.pure]

theorem keyFaultIn?_cons_eq_none_iff {x : Value} {xs : List Value} :
    keyFaultIn? (x :: xs) = none ↔ keyFault? x = none ∧ keyFaultIn? xs = none := by
  simp [keyFaultIn?]

mutual

theorem equal_symm {a b : Value} (key : keyFault? a = none) (h : equal a b = .ok true) :
    equal b a = .ok true := by
  cases alike_of_equal h with
  | null => rfl
  | text s => simp [equal]
  | bytes bs => simp [equal]
  | list xs ys => simp [keyFault?] at key
  | record fs gs => simp [keyFault?] at key
  | tuple xs ys items =>
    rw [keyFault?] at key
    rw [equal]
    exact equalAll_symm key items
  | number same => exact same.symm.equal
termination_by sizeOf a

theorem equalAll_symm {xs ys : List Value} (keys : keyFaultIn? xs = none)
    (h : equalAll xs ys = .ok true) : equalAll ys xs = .ok true := by
  match xs, ys, keys, h with
  | [], [], _, _ => rfl
  | x :: xs, y :: ys, keys, h =>
    obtain ⟨key, keys⟩ := keyFaultIn?_cons_eq_none_iff.mp keys
    obtain ⟨first, others⟩ := equalAll_cons_iff.mp h
    exact equalAll_cons_iff.mpr ⟨equal_symm key first, equalAll_symm keys others⟩
  | [], _ :: _, _, h => simp [equalAll] at h
  | _ :: _, [], _, h => simp [equalAll] at h
termination_by sizeOf xs

end

mutual

theorem equal_trans {a b c : Value} (key : keyFault? a = none) (hab : equal a b = .ok true)
    (hbc : equal b c = .ok true) : equal a c = .ok true := by
  cases alike_of_equal hab with
  | null => exact hbc
  | text s => exact hbc
  | bytes bs => exact hbc
  | list xs ys => simp [keyFault?] at key
  | record fs gs => simp [keyFault?] at key
  | tuple xs ys items =>
    cases alike_of_equal hbc with
    | tuple _ zs others =>
      rw [keyFault?] at key
      rw [equal]
      exact equalAll_trans key items others
    | number same =>
      obtain ⟨p, q, hp, -⟩ := same
      simp [parts?] at hp
  | number same =>
    cases alike_of_equal hbc with
    | number same' => exact (same.trans same').equal
    | _ =>
      obtain ⟨p, q, -, hq, -⟩ := same
      simp [parts?] at hq
termination_by sizeOf a

theorem equalAll_trans {xs ys zs : List Value} (keys : keyFaultIn? xs = none)
    (h : equalAll xs ys = .ok true) (h' : equalAll ys zs = .ok true) :
    equalAll xs zs = .ok true := by
  match xs, ys, zs, keys, h, h' with
  | [], [], [], _, _, _ => rfl
  | x :: xs, y :: ys, z :: zs, keys, h, h' =>
    obtain ⟨key, keys⟩ := keyFaultIn?_cons_eq_none_iff.mp keys
    obtain ⟨first, others⟩ := equalAll_cons_iff.mp h
    obtain ⟨first', others'⟩ := equalAll_cons_iff.mp h'
    exact equalAll_cons_iff.mpr
      ⟨equal_trans key first first', equalAll_trans keys others others'⟩
  | [], _ :: _, _, _, h, _ => simp [equalAll] at h
  | _ :: _, [], _, _, h, _ => simp [equalAll] at h
  | _, [], _ :: _, _, _, h => simp [equalAll] at h
  | _, _ :: _, [], _, _, h => simp [equalAll] at h
termination_by sizeOf xs

end

theorem sameKey_iff {a b : Value} : a.sameKey b = true ↔ equal a b = .ok true := by
  unfold sameKey
  split <;> simp_all

theorem sameKey_symm {a b : Value} (key : keyFault? a = none) (h : a.sameKey b = true) :
    b.sameKey a = true :=
  sameKey_iff.mpr (equal_symm key (sameKey_iff.mp h))

theorem sameKey_trans {a b c : Value} (key : keyFault? a = none) (hab : a.sameKey b = true)
    (hbc : b.sameKey c = true) : a.sameKey c = true :=
  sameKey_iff.mpr (equal_trans key (sameKey_iff.mp hab) (sameKey_iff.mp hbc))

theorem exists_of_atKey?_eq_some {α : Type} {k : Value} {es : List (Value × α)} {v : α}
    (h : atKey? k es = some v) : ∃ e ∈ es, e.1.sameKey k = true ∧ e.2 = v := by
  induction es with
  | nil => simp [atKey?] at h
  | cons e es ih =>
    by_cases hk : e.1.sameKey k = true
    · obtain rfl : e.2 = v := by simpa [atKey?, hk] using h
      exact ⟨e, List.mem_cons_self, hk, rfl⟩
    · obtain ⟨e', he', found⟩ := ih (by simpa [atKey?, hk] using h)
      exact ⟨e', List.mem_cons_of_mem _ he', found⟩

theorem atKey?_eq_none_iff {α : Type} {k : Value} {es : List (Value × α)} :
    atKey? k es = none ↔ ∀ e ∈ es, ¬ e.1.sameKey k = true := by
  induction es with
  | nil => simp [atKey?]
  | cons e es ih => by_cases hk : e.1.sameKey k = true <;> simp [atKey?, hk, ih]

theorem atKey?_putEntry_of_apart {α : Type} {k k' : Value} {es : List (Value × α)}
    (apart : ∀ e ∈ es, e.1.sameKey k' = true → ¬ e.1.sameKey k = true)
    (found : (atKey? k es).isSome) (new : α) :
    atKey? k' (putEntry k new es) = atKey? k' es := by
  induction es with
  | nil => simp [atKey?] at found
  | cons e es ih =>
    by_cases hk : e.1.sameKey k = true
    · have hk' : ¬ e.1.sameKey k' = true := fun hk' => apart e List.mem_cons_self hk' hk
      simp [putEntry, atKey?, hk, hk']
    · have rest := ih (fun e' he' => apart e' (List.mem_cons_of_mem _ he'))
        (by simpa [atKey?, hk] using found)
      by_cases hk' : e.1.sameKey k' = true <;> simp [putEntry, atKey?, hk, hk', rest]

theorem putEntry_of_atKey?_eq_none {α : Type} {k : Value} {es : List (Value × α)}
    (absent : atKey? k es = none) (new : α) : putEntry k new es = es ++ [(k, new)] := by
  induction es with
  | nil => rfl
  | cons e es ih =>
    have apart := atKey?_eq_none_iff.mp absent
    have here : ¬ e.1.sameKey k = true := apart e List.mem_cons_self
    have later : atKey? k es = none :=
      atKey?_eq_none_iff.mpr fun e' he' => apart e' (List.mem_cons_of_mem _ he')
    simp [putEntry, here, ih later]

theorem map_putEntry {α β : Type} (f : α → β) (k : Value) (new : α) (es : List (Value × α)) :
    (putEntry k new es).map (fun e => (e.1, f e.2)) = putEntry k (f new) (es.map fun e => (e.1, f e.2)) := by
  induction es with
  | nil => rfl
  | cons e es ih => by_cases hk : e.1.sameKey k = true <;> simp [putEntry, hk, ih]

section Filter

variable {α : Type} {k : Value} {es : List (Value × α)} (keep : Value → Bool)

theorem filter_putEntry_of_kept (kept : keep k = true)
    (same : ∀ e ∈ es, e.1.sameKey k = true → keep e.1 = true) (new : α) :
    (putEntry k new es).filter (fun e => keep e.1) = putEntry k new (es.filter fun e => keep e.1) := by
  induction es with
  | nil => simp [putEntry, kept]
  | cons e es ih =>
    obtain ⟨here, later⟩ := List.forall_mem_cons.mp same
    by_cases hk : e.1.sameKey k = true
    · simp [putEntry, hk, here hk]
    · by_cases kept' : keep e.1 = true <;> simp [putEntry, hk, kept', ih later]

theorem filter_putEntry_of_dropped (dropped : keep k = false)
    (same : ∀ e ∈ es, e.1.sameKey k = true → keep e.1 = false) (new : α) :
    (putEntry k new es).filter (fun e => keep e.1) = es.filter fun e => keep e.1 := by
  induction es with
  | nil => simp [putEntry, dropped]
  | cons e es ih =>
    obtain ⟨here, later⟩ := List.forall_mem_cons.mp same
    by_cases hk : e.1.sameKey k = true
    · simp [putEntry, hk, here hk]
    · by_cases kept : keep e.1 = true <;> simp [putEntry, hk, kept, ih later]

end Filter

def KeysApart {α : Type} (es : List (Value × α)) : Prop :=
  es.Pairwise fun a b => ¬ a.1.sameKey b.1 = true

instance {α : Type} (es : List (Value × α)) : Decidable (KeysApart es) :=
  inferInstanceAs (Decidable (List.Pairwise _ _))

theorem keysApart_iff_map_fst {α : Type} {es : List (Value × α)} :
    KeysApart es ↔ (es.map Prod.fst).Pairwise fun a b => ¬ a.sameKey b = true := by
  rw [KeysApart, List.pairwise_map]

/-- Entries as a mapping holds them: their keys can be keys, and differ pairwise. -/
structure IsDict {α : Type} (es : List (Value × α)) : Prop where
  keys : ∀ e ∈ es, e.1.keyFault? = none
  apart : KeysApart es

namespace IsDict

variable {α β : Type} {es : List (Value × α)} {k k' : Value}

theorem tail {e : Value × α} (h : IsDict (e :: es)) : IsDict es where
  keys := fun e' he => h.keys e' (List.mem_cons_of_mem _ he)
  apart := h.apart.of_cons

theorem sublist {es' : List (Value × α)} (h : IsDict es) (part : es'.Sublist es) : IsDict es' where
  keys := fun e he => h.keys e (part.subset he)
  apart := h.apart.sublist part

theorem perm {es' : List (Value × α)} (h : IsDict es) (order : es.Perm es') : IsDict es' := by
  have both : es.Pairwise fun a b => ¬ a.1.sameKey b.1 = true ∧ ¬ b.1.sameKey a.1 = true :=
    h.apart.imp_of_mem fun _ hb apart => ⟨apart, fun same => apart (sameKey_symm (h.keys _ hb) same)⟩
  refine ⟨fun e he => h.keys e (order.mem_iff.mpr he), ?_⟩
  exact ((order.pairwise_iff And.symm).mp both).imp And.left

theorem of_map_fst_eq {es' : List (Value × β)} (h : IsDict es)
    (same : es'.map Prod.fst = es.map Prod.fst) : IsDict es' := by
  constructor
  · intro e he
    have : e.1 ∈ es.map Prod.fst := same ▸ List.mem_map_of_mem he
    obtain ⟨e', he', first⟩ := List.mem_map.mp this
    exact first ▸ h.keys e' he'
  · rw [keysApart_iff_map_fst, same]
    exact keysApart_iff_map_fst.mp h.apart

theorem of_names {names : List String} (apart : names.Nodup)
    (keys : es.map Prod.fst = names.map .text) : IsDict es := by
  have texts : IsDict (names.map fun name => (Value.text name, ())) := by
    constructor
    · simp [Value.keyFault?]
    · rw [KeysApart, List.pairwise_map]
      exact apart.imp fun ne same => ne (by simpa [sameKey_text_iff] using same)
  exact texts.of_map_fst_eq (by simp [keys, Function.comp_def])

theorem put (h : IsDict es) (key : k.keyFault? = none) (new : α) : IsDict (putEntry k new es) := by
  cases found : atKey? k es with
  | some v => exact h.of_map_fst_eq (map_fst_putEntry (by simp [found]) new)
  | none =>
    rw [putEntry_of_atKey?_eq_none found]
    constructor
    · intro e he
      rcases List.mem_append.mp he with old | last
      · exact h.keys e old
      · rw [List.mem_singleton.mp last]
        exact key
    · refine List.pairwise_append.mpr ⟨h.apart, List.pairwise_singleton _ _, ?_⟩
      intro e he e' he'
      rw [List.mem_singleton.mp he']
      exact atKey?_eq_none_iff.mp found e he

theorem eq_of_sameKey (h : IsDict es) {e e' : Value × α} (he : e ∈ es) (he' : e' ∈ es)
    (hk : e.1.sameKey k = true) (hk' : e'.1.sameKey k = true) : e = e' := by
  have forth := sameKey_trans (h.keys e he) hk (sameKey_symm (h.keys e' he') hk')
  have back := sameKey_symm (h.keys e he) forth
  induction es with
  | nil => simp at he
  | cons e₀ es ih =>
    have apart := List.pairwise_cons.mp h.apart
    rcases List.mem_cons.mp he with rfl | later
    · rcases List.mem_cons.mp he' with rfl | later'
      · rfl
      · exact absurd forth (apart.1 e' later')
    · rcases List.mem_cons.mp he' with rfl | later'
      · exact absurd back (apart.1 e later)
      · exact ih h.tail later later'

theorem atKey?_eq_some_iff (h : IsDict es) {v : α} :
    atKey? k es = some v ↔ ∃ e ∈ es, e.1.sameKey k = true ∧ e.2 = v := by
  constructor
  · exact exists_of_atKey?_eq_some
  · rintro ⟨e, he, hk, rfl⟩
    cases found : atKey? k es with
    | none => exact absurd hk (atKey?_eq_none_iff.mp found e he)
    | some v =>
      obtain ⟨e', he', hk', rfl⟩ := exists_of_atKey?_eq_some found
      rw [h.eq_of_sameKey he he' hk hk']

/-- Setting an entry that is there changes its value and nothing else. -/
theorem putEntry_eq_map (h : IsDict es) (found : (atKey? k es).isSome) (new : α) :
    putEntry k new es = es.map fun e => if e.1.sameKey k then (e.1, new) else e := by
  induction es with
  | nil => simp [atKey?] at found
  | cons e es ih =>
    by_cases hk : e.1.sameKey k = true
    · have others : ∀ e' ∈ es, e'.1.sameKey k ≠ true := by
        intro e' he' hk'
        have forth := sameKey_trans (h.keys e List.mem_cons_self) hk
          (sameKey_symm (h.tail.keys e' he') hk')
        exact (List.pairwise_cons.mp h.apart).1 e' he' forth
      have same : es.map (fun e => if e.1.sameKey k then (e.1, new) else e) = es := by
        conv_rhs => rw [← List.map_id es]
        exact List.map_congr_left fun e' he' => if_neg (others e' he')
      simp [putEntry, hk, same]
    · simp only [atKey?, hk] at found
      simp [putEntry, hk, ih h.tail found]

end IsDict

end Value

end RecordPipeline
