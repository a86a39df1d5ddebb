import RecordPipeline.Value.Exact
set_option autoImplicit false

/-!
Equality of values. Numbers are compared by exact value whatever their type, records field by field
in any order, and lists are never equal to tuples. Comparing a signaling NaN with a number fails,
and so does comparing a table with anything.
-/

namespace RecordPipeline

namespace Value

def parts? : Value → Option (Exact × Double)
  | .bool b => some (.ofInt (if b then 1 else 0), .zero false)
  | .int n => some (.ofInt n, .zero false)
  | .float d => some (.ofDouble d, .zero false)
  | .decimal d => some (.ofDecimal d, .zero false)
  | .fraction r => some (.finite { num := r.num, den := r.den }, .zero false)
  | .complex re im => some (.ofDouble re, im)
  | _ => none

def equalParts (a b : Exact × Double) : Except ValueFault Bool :=
  if a.2.numEq b.2 then a.1.equal b.1 else .ok false

def isTable : Value → Bool
  | .table _ _ => true
  | _ => false

mutual

def equal : Value → Value → Except ValueFault Bool
  | .null, .null => .ok true
  | .text s, .text t => .ok (s = t)
  | .int m, .int n => .ok (m = n)
  | .bytes s, .bytes t => .ok (s = t)
  | .list xs, .list ys => if xs.length = ys.length then equalAll xs ys else .ok false
  | .tuple xs, .tuple ys => equalAll xs ys
  | .record fs, .record gs => if fs.length = gs.length then included fs gs else .ok false
  | a, b =>
    match a.parts?, b.parts? with
    | some p, some q => equalParts p q
    | _, _ => if a.isTable || b.isTable then .error .noTruthValue else .ok false

def equalAll : List Value → List Value → Except ValueFault Bool
  | [], [] => .ok true
  | x :: xs, y :: ys => do if ← equal x y then equalAll xs ys else return false
  | _, _ => .ok false

def included : List (Value × Value) → List (Value × Value) → Except ValueFault Bool
  | [], _ => .ok true
  | (k, v) :: fs, gs =>
    match gs.find? fun g => equal k g.1 matches .ok true with
    | some g => do if ← equal v g.2 then included fs gs else return false
    | none => .ok false

end

def sameKey (a b : Value) : Bool := equal a b matches .ok true

mutual

/-- Why a value cannot be a key: containers that can change are none, nor is a signaling NaN. -/
def keyFault? : Value → Option ValueFault
  | .list _ => some (.notHashable "list")
  | .record _ => some (.notHashable "dict")
  | .table _ _ => some (.notHashable "DataFrame")
  | .decimal d => if d.isSignaling then some .signalingKey else none
  | .tuple xs => keyFaultIn? xs
  | _ => none

def keyFaultIn? : List Value → Option ValueFault
  | [] => none
  | x :: xs => (keyFault? x).or (keyFaultIn? xs)

end

/-- Sets an entry: a key that is there keeps its place and its first form. -/
def putEntry {α : Type} (key : Value) (new : α) : List (Value × α) → List (Value × α)
  | [] => [(key, new)]
  | (k, old) :: es => if k.sameKey key then (k, new) :: es else (k, old) :: putEntry key new es

def atKey? {α : Type} (key : Value) : List (Value × α) → Option α
  | [] => none
  | (k, v) :: es => if k.sameKey key then some v else atKey? key es

theorem sameKey_text_iff (k : Value) (s : String) : k.sameKey (.text s) = true ↔ k = .text s := by
  cases k with
  | text t => by_cases h : t = s <;> simp [sameKey, equal, h]
  | _ => simp [sameKey, equal, parts?, isTable]

theorem map_fst_putEntry {α : Type} {key : Value} {es : List (Value × α)}
    (h : (atKey? key es).isSome) (new : α) : (putEntry key new es).map Prod.fst = es.map Prod.fst := by
  induction es with
  | nil => simp [atKey?] at h
  | cons e es ih =>
    obtain ⟨k, v⟩ := e
    by_cases hk : k.sameKey key
    · simp [putEntry, hk]
    · simp only [atKey?, hk] at h
      simp [putEntry, hk, ih h]

def field? (name : String) (fs : List (Value × Value)) : Option Value := atKey? (.text name) fs

def ofPairs (pairs : List (Value × Value)) : Value :=
  .record (pairs.foldl (fun fs p => putEntry p.1 p.2 fs) [])

end Value

def putNamed {α : Type} (name : String) (new : α) : List (String × α) → List (String × α)
  | [] => [(name, new)]
  | (k, old) :: es => if k = name then (k, new) :: es else (k, old) :: putNamed name new es

theorem lookup_putNamed {α : Type} (name : String) (new : α) (es : List (String × α)) :
    (putNamed name new es).lookup name = some new := by
  induction es with
  | nil => simp [putNamed]
  | cons e es ih =>
    obtain ⟨key, old⟩ := e
    by_cases h : key = name
    · simp [putNamed, h]
    · have apart : (name == key) = false := by simpa using Ne.symm h
      simp [putNamed, h, List.lookup_cons, apart, ih]

theorem lookup_putNamed_of_ne {α : Type} {name other : String} (ne : name ≠ other) (new : α)
    (es : List (String × α)) : (putNamed name new es).lookup other = es.lookup other := by
  have apart : (other == name) = false := by simpa using Ne.symm ne
  induction es with
  | nil => simp [putNamed, List.lookup_cons, apart]
  | cons e es ih =>
    obtain ⟨key, old⟩ := e
    by_cases h : key = name
    · simp [putNamed, h, List.lookup_cons, apart]
    · simp [putNamed, h, List.lookup_cons, ih]

theorem putNamed_of_not_mem {α : Type} {name : String} {es : List (String × α)} (absent : name ∉ es.map Prod.fst)
    (new : α) : putNamed name new es = es ++ [(name, new)] := by
  induction es with
  | nil => rfl
  | cons e es ih =>
    simp only [List.map_cons, List.mem_cons, not_or] at absent
    simp only [putNamed, Ne.symm absent.1, if_false, ih absent.2, List.cons_append]

theorem eq_or_mem_of_mem_putNamed {α : Type} {name : String} {new : α} {e : String × α} {es : List (String × α)}
    (h : e ∈ putNamed name new es) : e = (name, new) ∨ e ∈ es := by
  induction es with
  | nil => simpa [putNamed] using h
  | cons first es ih =>
    by_cases same : first.1 = name
    · simp only [putNamed, same, if_true, List.mem_cons] at h
      exact h.imp_right (List.mem_cons_of_mem first)
    · simp only [putNamed, same, if_false, List.mem_cons] at h
      obtain rfl | later := h
      · exact .inr List.mem_cons_self
      · exact (ih later).imp_right (List.mem_cons_of_mem first)

theorem map_fst_putNamed {α : Type} (name : String) (new : α) (es : List (String × α)) :
    (putNamed name new es).map Prod.fst =
      if name ∈ es.map Prod.fst then es.map Prod.fst else es.map Prod.fst ++ [name] := by
  induction es with
  | nil => simp [putNamed]
  | cons e es ih =>
    by_cases h : e.1 = name
    · simp [putNamed, h]
    · by_cases later : name ∈ es.map Prod.fst
      · simp only [putNamed, h, if_false, List.map_cons, ih, later, if_true, List.mem_cons, or_true]
      · have absent : name ∉ (e :: es).map Prod.fst := by simpa [Ne.symm h] using later
        rw [if_neg absent]
        simp only [putNamed, h, if_false, List.map_cons, ih, later, List.cons_append]

theorem nodup_putNamed {α : Type} {es : List (String × α)} (h : (es.map Prod.fst).Nodup) (name : String)
    (new : α) : ((putNamed name new es).map Prod.fst).Nodup := by
  rw [map_fst_putNamed]
  split
  · exact h
  · rename_i absent
    rw [List.nodup_append]
    refine ⟨h, by simp, ?_⟩
    rintro other there last here rfl
    exact absent (List.mem_singleton.mp here ▸ there)

end RecordPipeline
