import Mathlib.Data.List.Perm.Basic
import RecordPipeline.Proofs.Outcome
import RecordPipeline.Proofs.Value.Exact
import RecordPipeline.Proofs.Value.Key
set_option autoImplicit false

/-!
Equality of values as a relation. Numbers are the same if they stand for one number, lists and
tuples if their items are in order, and records if the fields of one, put in some order, are those
of the other. Comparing decides this for all values that are comparable, and the relation is an
equivalence on them.
-/

namespace RecordPipeline

namespace Value

/-- Equality in value. -/
inductive Same : Value → Value → Prop
  | null : Same .null .null
  | text (s : String) : Same (.text s) (.text s)
  | bytes (bs : List UInt8) : Same (.bytes bs) (.bytes bs)
  | number {a b : Value} {x : Extended × Extended} (left : a.number? = some x) (right : b.number? = some x) :
      Same a b
  | list {xs ys : List Value} (items : List.Forall₂ Same xs ys) : Same (.list xs) (.list ys)
  | tuple {xs ys : List Value} (items : List.Forall₂ Same xs ys) : Same (.tuple xs) (.tuple ys)
  | record {fs gs hs : List (Value × Value)} (order : hs.Perm gs)
      (fields : List.Forall₂ (Prod.RProd Same Same) fs hs) : Same (.record fs) (.record gs)

/-- Values that can be compared with one another. They hold no NaN, and nothing of which only the
type is known: no table either, since comparing tables does not tell whether they are equal. -/
inductive IsComparable : Value → Prop
  | null : IsComparable .null
  | text (s : String) : IsComparable (.text s)
  | bytes (bs : List UInt8) : IsComparable (.bytes bs)
  | number {v : Value} {x : Extended × Extended} (stands : v.number? = some x) : IsComparable v
  | list {xs : List Value} (items : ∀ x ∈ xs, IsComparable x) : IsComparable (.list xs)
  | tuple {xs : List Value} (items : ∀ x ∈ xs, IsComparable x) : IsComparable (.tuple xs)
  | record {fs : List (Value × Value)} (dict : IsDict fs) (keys : ∀ f ∈ fs, IsComparable f.1)
      (values : ∀ f ∈ fs, IsComparable f.2) : IsComparable (.record fs)

section Inversion

variable {a b : Value} {x y : Extended × Extended} {xs ys : List Value} {fs gs : List (Value × Value)}

theorem same_text_iff {s t : String} : Same (.text s) (.text t) ↔ s = t := by
  constructor
  · intro h
    cases h with
    | text => rfl
    | number left => cases left
  · rintro rfl
    exact .text s

theorem same_bytes_iff {bs cs : List UInt8} : Same (.bytes bs) (.bytes cs) ↔ bs = cs := by
  constructor
  · intro h
    cases h with
    | bytes => rfl
    | number left => cases left
  · rintro rfl
    exact .bytes bs

theorem same_number_iff (ha : a.number? = some x) (hb : b.number? = some y) : Same a b ↔ x = y := by
  constructor
  · intro h
    cases h with
    | number left right => exact Option.some.inj (ha.symm.trans (left.trans (right.symm.trans hb)))
    | _ => cases ha
  · rintro rfl
    exact .number ha hb

theorem same_list_iff : Same (.list xs) (.list ys) ↔ List.Forall₂ Same xs ys := by
  constructor
  · intro h
    cases h with
    | list items => exact items
    | number left => cases left
  · exact .list

theorem same_tuple_iff : Same (.tuple xs) (.tuple ys) ↔ List.Forall₂ Same xs ys := by
  constructor
  · intro h
    cases h with
    | tuple items => exact items
    | number left => cases left
  · exact .tuple

theorem same_record_iff :
    Same (.record fs) (.record gs) ↔ ∃ hs, hs.Perm gs ∧ List.Forall₂ (Prod.RProd Same Same) fs hs := by
  constructor
  · intro h
    cases h with
    | record order fields => exact ⟨_, order, fields⟩
    | number left => cases left
  · rintro ⟨hs, order, fields⟩
    exact .record order fields

end Inversion

section Equivalence

mutual

theorem Same.symm {a b : Value} (h : Same a b) : Same b a := by
  cases h with
  | null => exact .null
  | text s => exact .text s
  | bytes bs => exact .bytes bs
  | number left right => exact .number right left
  | list items => exact .list (forall₂_same_symm items)
  | tuple items => exact .tuple (forall₂_same_symm items)
  | record order fields =>
    obtain ⟨hs, fields', order'⟩ := List.perm_comp_forall₂ order.symm (forall₂_rProd_same_symm fields)
    exact .record order' fields'
termination_by sizeOf a

theorem forall₂_same_symm {xs ys : List Value} (h : List.Forall₂ Same xs ys) : List.Forall₂ Same ys xs := by
  match xs, ys, h with
  | [], _, .nil => exact .nil
  | _ :: _, _, .cons first others => exact .cons first.symm (forall₂_same_symm others)
termination_by sizeOf xs

theorem forall₂_rProd_same_symm {fs gs : List (Value × Value)} (h : List.Forall₂ (Prod.RProd Same Same) fs gs) :
    List.Forall₂ (Prod.RProd Same Same) gs fs := by
  match fs, gs, h with
  | [], _, .nil => exact .nil
  | _ :: _, _, .cons (.intro key value) others =>
    exact .cons (.intro key.symm value.symm) (forall₂_rProd_same_symm others)
termination_by sizeOf fs

end

mutual

theorem Same.trans {a b c : Value} (h : Same a b) (h' : Same b c) : Same a c := by
  cases h with
  | null => exact h'
  | text s => exact h'
  | bytes bs => exact h'
  | number left right =>
    cases h' with
    | number left' right' =>
      obtain rfl := Option.some.inj (right.symm.trans left')
      exact .number left right'
    | _ => cases right
  | list items =>
    cases h' with
    | list items' => exact .list (forall₂_same_trans items items')
    | number left => cases left
  | tuple items =>
    cases h' with
    | tuple items' => exact .tuple (forall₂_same_trans items items')
    | number left => cases left
  | record order fields =>
    cases h' with
    | record order' fields' =>
      obtain ⟨hs, moved, moved'⟩ := List.perm_comp_forall₂ order fields'
      exact .record (moved'.trans order') (forall₂_rProd_same_trans fields moved)
    | number left => cases left
termination_by sizeOf a

theorem forall₂_same_trans {xs ys zs : List Value} (h : List.Forall₂ Same xs ys) (h' : List.Forall₂ Same ys zs) :
    List.Forall₂ Same xs zs := by
  match xs, ys, zs, h, h' with
  | [], _, _, .nil, .nil => exact .nil
  | _ :: _, _, _, .cons first others, .cons first' others' =>
    exact .cons (first.trans first') (forall₂_same_trans others others')
termination_by sizeOf xs

theorem forall₂_rProd_same_trans {fs gs hs : List (Value × Value)} (h : List.Forall₂ (Prod.RProd Same Same) fs gs)
    (h' : List.Forall₂ (Prod.RProd Same Same) gs hs) : List.Forall₂ (Prod.RProd Same Same) fs hs := by
  match fs, gs, hs, h, h' with
  | [], _, _, .nil, .nil => exact .nil
  | _ :: _, _, _, .cons (.intro key value) others, .cons (.intro key' value') others' =>
    exact .cons (.intro (key.trans key') (value.trans value')) (forall₂_rProd_same_trans others others')
termination_by sizeOf fs

end

theorem IsComparable.same_refl {a : Value} (h : IsComparable a) : Same a a := by
  induction h with
  | null => exact .null
  | text s => exact .text s
  | bytes bs => exact .bytes bs
  | number stands => exact .number stands stands
  | list items ih => exact .list (List.forall₂_same.mpr ih)
  | tuple items ih => exact .tuple (List.forall₂_same.mpr ih)
  | record dict keys values key value =>
    exact .record (.refl _) (List.forall₂_same.mpr fun f member => .intro (key f member) (value f member))

end Equivalence

section Comparing

/-- What two values have in common if they are equal. -/
inductive Shape where
  | null
  | text
  | bytes
  | number
  | list
  | tuple
  | record
  | other
  deriving DecidableEq

def shape : Value → Shape
  | .null => .null
  | .text _ => .text
  | .bytes _ => .bytes
  | .bool _ | .int _ | .float _ | .decimal _ | .fraction _ | .complex _ _ => .number
  | .list _ => .list
  | .tuple _ => .tuple
  | .record _ => .record
  | .table _ _ | .unknown _ => .other

variable {a b v : Value} {x : Extended × Extended}

theorem shape_of_number? (h : v.number? = some x) : v.shape = .number := by
  cases v <;> first | rfl | cases h

theorem Same.shape_eq (h : Same a b) : a.shape = b.shape := by
  cases h with
  | number left right => rw [shape_of_number? left, shape_of_number? right]
  | _ => rfl

theorem parts?_eq_none (h : v.shape ≠ .number) : v.parts? = none := by
  cases v <;> first | rfl | exact absurd rfl h

theorem isTable_of_number? (h : v.number? = some x) : v.isTable = false := by
  cases v <;> first | rfl | cases h

theorem IsComparable.isTable_eq_false (h : v.IsComparable) : v.isTable = false := by
  cases h with
  | number stands => exact isTable_of_number? stands
  | _ => rfl

theorem equal_of_shape_ne (h : a.shape ≠ b.shape) (ha : a.isTable = false) (hb : b.isTable = false) :
    equal a b = .ok false := by
  rw [equal.eq_def]
  split
  case h_8 =>
    simp only [ha, hb, Bool.or_self, Bool.false_eq_true, if_false]
    by_cases number : a.shape = .number
    · rw [parts?_eq_none fun number' => h (number.trans number'.symm)]
      cases a.parts? <;> rfl
    · rw [parts?_eq_none number]
  all_goals exact absurd rfl h

theorem decides_of_shape_ne (h : a.shape ≠ b.shape) (ha : a.isTable = false) (hb : b.isTable = false) :
    Decides (equal a b) (Same a b) := by
  rw [equal_of_shape_ne h ha hb]
  exact decides_false fun same => h same.shape_eq

theorem decides_equalAll {xs ys : List Value} (each : ∀ x ∈ xs, ∀ y ∈ ys, Decides (equal x y) (Same x y)) :
    Decides (equalAll xs ys) (List.Forall₂ Same xs ys) := by
  induction xs generalizing ys with
  | nil =>
    cases ys with
    | nil => exact decides_true .nil
    | cons y ys => exact decides_false nofun
  | cons x xs ih =>
    cases ys with
    | nil => exact decides_false nofun
    | cons y ys =>
      have first := each x List.mem_cons_self y List.mem_cons_self
      have others := ih fun x' hx y' hy => each x' (List.mem_cons_of_mem _ hx) y' (List.mem_cons_of_mem _ hy)
      rw [equalAll]
      exact (first.and others).congr List.forall₂_cons.symm

theorem exists_mem_of_forall₂ {α β : Type} {R : α → β → Prop} {xs : List α} {ys : List β}
    (h : List.Forall₂ R xs ys) : ∀ y ∈ ys, ∃ x ∈ xs, R x y := by
  induction h with
  | nil => simp
  | @cons x y xs ys first others ih =>
    refine List.forall_mem_cons.mpr ⟨⟨x, List.mem_cons_self, first⟩, fun y' member => ?_⟩
    obtain ⟨x', member', same⟩ := ih y' member
    exact ⟨x', List.mem_cons_of_mem _ member', same⟩

section Included

variable {k : Value} {fs gs hs : List (Value × Value)} {g h : Value × Value}

theorem eq_of_asked (dict : IsDict gs) (hashable : k.keyFault? = none) (hg : g ∈ gs) (hh : h ∈ gs)
    (here : k.sameKey g.1 = true) (there : k.sameKey h.1 = true) : h = g :=
  dict.eq_of_sameKey hh hg (sameKey_symm hashable there) (sameKey_symm hashable here)

theorem not_mem_of_asked {v : Value} (dict : IsDict ((k, v) :: fs)) (here : k.sameKey g.1 = true)
    (asks : ∀ f ∈ fs, Same f.1 g.1 → f.1.sameKey g.1 = true)
    (fields : List.Forall₂ (Prod.RProd Same Same) fs hs) : g ∉ hs := by
  intro taken
  obtain ⟨f, member, pair⟩ := exists_mem_of_forall₂ fields g taken
  have there : f.1.sameKey g.1 = true := by
    cases pair with
    | intro same _ => exact asks _ member same
  have same := sameKey_trans (dict.keys _ List.mem_cons_self) here (sameKey_symm (dict.tail.keys f member) there)
  exact (List.pairwise_cons.mp dict.apart).1 f member same

/-- Fields of a record are found among those of another one, each by its key, if they are some of
them in some order. -/
theorem decides_included (dict : IsDict fs) (dict' : IsDict gs)
    (keys : ∀ f ∈ fs, ∀ g ∈ gs, f.1.sameKey g.1 = true ↔ Same f.1 g.1)
    (values : ∀ f ∈ fs, ∀ g ∈ gs, Decides (equal f.2 g.2) (Same f.2 g.2)) :
    Decides (included fs gs) (∃ hs, hs.Subperm gs ∧ List.Forall₂ (Prod.RProd Same Same) fs hs) := by
  induction fs with
  | nil =>
    rw [included]
    exact decides_true ⟨[], List.nil_subperm, .nil⟩
  | cons f fs ih =>
    obtain ⟨k, v⟩ := f
    obtain ⟨key, keys⟩ := List.forall_mem_cons.mp keys
    obtain ⟨value, values⟩ := List.forall_mem_cons.mp values
    have rest := ih dict.tail keys values
    rw [included]
    split
    · rename_i g found
      have member := List.mem_of_find?_eq_some found
      have here : k.sameKey g.1 = true := by
        have here := List.find?_some found
        exact here
      -- the field found is the one to be taken, and is left over by the fields behind
      refine ((value g member).and rest).congr ⟨?_, ?_⟩
      · rintro ⟨same, hs, part, fields⟩
        have absent := not_mem_of_asked dict here (fun f hf => (keys f hf g member).mpr) fields
        exact ⟨g :: hs, List.cons_subperm_of_not_mem_of_mem absent member part,
          .cons (.intro ((key g member).mp here) same) fields⟩
      · rintro ⟨hs, part, fields⟩
        obtain ⟨h, hs, ⟨same, same'⟩, others, rfl⟩ := List.forall₂_cons_left_iff.mp fields
        have asked := part.subset List.mem_cons_self
        obtain rfl := eq_of_asked dict' (dict.keys _ List.mem_cons_self) member asked here ((key _ asked).mpr same)
        exact ⟨same', hs, (List.sublist_cons_self _ _).subperm.trans part, others⟩
    · rename_i missing
      refine decides_false ?_
      rintro ⟨hs, part, fields⟩
      obtain ⟨h, hs, ⟨same, -⟩, -, rfl⟩ := List.forall₂_cons_left_iff.mp fields
      have asked := part.subset List.mem_cons_self
      exact List.find?_eq_none.mp missing _ asked ((key _ asked).mpr same)

end Included

/-- Comparing always tells whether two comparable values are the same. -/
theorem IsComparable.decides_equal (ha : IsComparable a) (hb : IsComparable b) :
    Decides (equal a b) (Same a b) := by
  have comparable := hb.isTable_eq_false
  induction ha generalizing b with
  | null =>
    cases hb with
    | null => exact decides_true .null
    | number stands => exact decides_of_shape_ne (shape_of_number? stands ▸ nofun) rfl comparable
    | _ => exact decides_of_shape_ne nofun rfl comparable
  | text s =>
    cases hb with
    | text t =>
      rw [equal]
      exact decides_decide.congr same_text_iff.symm
    | number stands => exact decides_of_shape_ne (shape_of_number? stands ▸ nofun) rfl comparable
    | _ => exact decides_of_shape_ne nofun rfl comparable
  | bytes bs =>
    cases hb with
    | bytes cs =>
      rw [equal]
      exact decides_decide.congr same_bytes_iff.symm
    | number stands => exact decides_of_shape_ne (shape_of_number? stands ▸ nofun) rfl comparable
    | _ => exact decides_of_shape_ne nofun rfl comparable
  | number stands =>
    cases hb with
    | number stands' =>
      rw [equal_of_number? stands stands']
      exact decides_decide.congr (same_number_iff stands stands').symm
    | _ => exact decides_of_shape_ne (shape_of_number? stands ▸ nofun) (isTable_of_number? stands) comparable
  | list items ih =>
    cases hb with
    | list items' =>
      have decided := decides_equalAll fun x hx y hy => ih x hx (items' y hy) (items' y hy).isTable_eq_false
      rw [equal]
      split
      · exact decided.congr same_list_iff.symm
      · rename_i longer
        exact decides_false fun same => longer (same_list_iff.mp same).length_eq
    | number stands => exact decides_of_shape_ne (shape_of_number? stands ▸ nofun) rfl comparable
    | _ => exact decides_of_shape_ne nofun rfl comparable
  | tuple items ih =>
    cases hb with
    | tuple items' =>
      rw [equal]
      exact (decides_equalAll fun x hx y hy =>
        ih x hx (items' y hy) (items' y hy).isTable_eq_false).congr same_tuple_iff.symm
    | number stands => exact decides_of_shape_ne (shape_of_number? stands ▸ nofun) rfl comparable
    | _ => exact decides_of_shape_ne nofun rfl comparable
  | @record fs dict keys values key value =>
    cases hb with
    | @record gs dict' keys' values' =>
      have found := decides_included dict dict'
        (fun f hf g hg => sameKey_iff.trans (key f hf (keys' g hg) (keys' g hg).isTable_eq_false).eq_true_iff)
        fun f hf g hg => value f hf (values' g hg) (values' g hg).isTable_eq_false
      rw [equal]
      split
      · rename_i length
        refine found.congr (Iff.trans ?_ same_record_iff.symm)
        constructor
        · rintro ⟨hs, part, fields⟩
          exact ⟨hs, part.perm_of_length_le (by rw [← length, fields.length_eq]), fields⟩
        · rintro ⟨hs, order, fields⟩
          exact ⟨hs, order.subperm, fields⟩
      · rename_i longer
        refine decides_false fun same => longer ?_
        obtain ⟨hs, order, fields⟩ := same_record_iff.mp same
        rw [fields.length_eq, order.length_eq]
    | number stands => exact decides_of_shape_ne (shape_of_number? stands ▸ nofun) rfl comparable
    | _ => exact decides_of_shape_ne nofun rfl comparable

end Comparing

end Value

end RecordPipeline
