import Mathlib.Data.List.Induction
import RecordPipeline.Value.Equal
set_option autoImplicit false

namespace RecordPipeline

theorem map_snd_putNamed {α β : Type} (f : α → β) (name : String) (new : α) (es : List (String × α)) :
    (putNamed name new es).map (Prod.map id f) = putNamed name (f new) (es.map (Prod.map id f)) := by
  induction es with
  | nil => rfl
  | cons e es ih =>
    obtain ⟨key, old⟩ := e
    by_cases same : key = name <;> simp [putNamed, same, ih]

def putAllNamed {α : Type} (found named : List (String × α)) : List (String × α) :=
  named.foldl (fun es e => putNamed e.1 e.2 es) found

section PutAll

variable {α : Type} {found named : List (String × α)}

theorem putAllNamed_append (found named later : List (String × α)) :
    putAllNamed found (named ++ later) = putAllNamed (putAllNamed found named) later := List.foldl_append

theorem putAllNamed_concat (found named : List (String × α)) (e : String × α) :
    putAllNamed found (named ++ [e]) = putNamed e.1 e.2 (putAllNamed found named) :=
      putAllNamed_append found named [e]

theorem map_fst_putAllNamed (named : List (String × α)) :
    (putAllNamed [] named).map Prod.fst = (named.map Prod.fst).eraseDups := by
  induction named using List.reverseRecOn with
  | nil => rfl
  | append_singleton named e ih =>
    rw [putAllNamed_concat, map_fst_putNamed, ih, List.map_append, List.eraseDups_append]
    by_cases again : e.1 ∈ named.map Prod.fst
    · simp [List.removeAll, again]
    · simp [List.removeAll, again, List.eraseDups_cons]

/-- Of several entries of one name the last one counts. -/
theorem lookup_putAllNamed (named : List (String × α)) (name : String) :
    (putAllNamed [] named).lookup name = named.reverse.lookup name := by
  induction named using List.reverseRecOn with
  | nil => rfl
  | append_singleton named e ih =>
    obtain ⟨last, new⟩ := e
    rw [putAllNamed_concat]
    by_cases same : last = name
    · simp [same, lookup_putNamed]
    · have apart : (name == last) = false := by simpa using Ne.symm same
      simp [lookup_putNamed_of_ne same, List.lookup_cons, apart, ih]

theorem nodup_putAllNamed (h : (found.map Prod.fst).Nodup) (named : List (String × α)) :
    ((putAllNamed found named).map Prod.fst).Nodup := by
  induction named generalizing found with
  | nil => exact h
  | cons e named ih => exact ih (nodup_putNamed h e.1 e.2)

theorem putAllNamed_of_nodup (h : (named.map Prod.fst).Nodup) : putAllNamed [] named = named := by
  induction named using List.reverseRecOn with
  | nil => rfl
  | append_singleton named e ih =>
    rw [List.map_append, List.nodup_append] at h
    obtain ⟨differ, -, apart⟩ := h
    have new : e.1 ∉ named.map Prod.fst := fun again => apart e.1 again e.1 (by simp) rfl
    rw [putAllNamed_concat, ih differ, putNamed_of_not_mem new]

theorem putAllNamed_map_snd {β : Type} (f : α → β) (found named : List (String × α)) :
    putAllNamed (found.map (Prod.map id f)) (named.map (Prod.map id f)) =
      (putAllNamed found named).map (Prod.map id f) := by
  induction named generalizing found with
  | nil => rfl
  | cons e named ih =>
    have others := ih (putNamed e.1 e.2 found)
    rw [map_snd_putNamed] at others
    exact others

theorem mem_of_mem_putAllNamed {e : String × α} (h : e ∈ putAllNamed [] named) : e ∈ named := by
  induction named using List.reverseRecOn with
  | nil => exact h
  | append_singleton named last ih =>
    rw [putAllNamed_concat] at h
    obtain rfl | earlier := eq_or_mem_of_mem_putNamed h
    · simp
    · exact List.mem_append_left [last] (ih earlier)

end PutAll

end RecordPipeline
