set_option autoImplicit false

namespace RecordPipeline.Text

def splitAll (mark : Char) : List Char → List (List Char)
  | [] => [[]]
  | c :: cs =>
    if c = mark then [] :: splitAll mark cs
    else match splitAll mark cs with
      | [] => [[c]]
      | piece :: pieces => (c :: piece) :: pieces

/-- What stands before the first separator, and what stands after it if there is one. -/
def cut (mark : Char) : List Char → List Char × Option (List Char)
  | [] => ([], none)
  | c :: cs =>
    if c = mark then ([], some cs)
    else
      let (before, after) := cut mark cs
      (c :: before, after)

def join (mark : Char) : List (List Char) → List Char
  | [] => []
  | [piece] => piece
  | piece :: pieces => piece ++ mark :: join mark pieces

def occursIn (part : List Char) : List Char → Bool
  | [] => part.isEmpty
  | c :: cs => part.isPrefixOf (c :: cs) || occursIn part cs

theorem splitAll_ne_nil (mark : Char) (cs : List Char) : splitAll mark cs ≠ [] := by
  cases cs with
  | nil => simp [splitAll]
  | cons c cs =>
    simp only [splitAll]
    split
    · simp
    · split <;> simp

@[simp] theorem join_splitAll (mark : Char) (cs : List Char) : join mark (splitAll mark cs) = cs := by
  induction cs with
  | nil => rfl
  | cons c cs ih =>
    cases h : splitAll mark cs with
    | nil => exact absurd h (splitAll_ne_nil mark cs)
    | cons piece pieces =>
      rw [h] at ih
      by_cases hc : c = mark
      · simp only [splitAll, hc, if_true, h, join, List.nil_append, ih]
      · simp only [splitAll, hc, if_false, h]
        cases pieces with
        | nil => simpa [join] using ih
        | cons q qs => simpa [join] using ih

theorem splitAll_of_not_mem (mark : Char) (cs : List Char) (h : mark ∉ cs) :
    splitAll mark cs = [cs] := by
  induction cs with
  | nil => rfl
  | cons c cs ih =>
    simp only [List.mem_cons, not_or] at h
    simp only [splitAll, if_neg (Ne.symm h.1), ih h.2]

theorem splitAll_append (mark : Char) (piece rest : List Char) (h : mark ∉ piece) :
    splitAll mark (piece ++ mark :: rest) = piece :: splitAll mark rest := by
  induction piece with
  | nil => simp [splitAll]
  | cons c cs ih =>
    simp only [List.mem_cons, not_or] at h
    simp only [List.cons_append, splitAll, if_neg (Ne.symm h.1), ih h.2]

theorem not_mem_of_mem_splitAll {mark : Char} {cs piece : List Char} (h : piece ∈ splitAll mark cs) :
    mark ∉ piece := by
  induction cs generalizing piece with
  | nil => simp_all [splitAll]
  | cons c cs ih =>
    simp only [splitAll] at h
    by_cases hc : c = mark
    · simp only [hc, if_true, List.mem_cons] at h
      rcases h with rfl | later
      · simp
      · exact ih later
    · cases parts : splitAll mark cs with
      | nil => exact absurd parts (splitAll_ne_nil mark cs)
      | cons first others =>
        simp only [hc, if_false, parts, List.mem_cons] at h
        rcases h with rfl | later
        · have unmarked : mark ∉ first := ih (by simp [parts])
          simp [Ne.symm hc, unmarked]
        · exact ih (by simp [parts, later])

theorem splitAll_join {mark : Char} {pieces : List (List Char)} (ne : pieces ≠ [])
    (unmarked : ∀ piece ∈ pieces, mark ∉ piece) : splitAll mark (join mark pieces) = pieces := by
  induction pieces with
  | nil => exact absurd rfl ne
  | cons piece pieces ih =>
    have here : mark ∉ piece := unmarked piece List.mem_cons_self
    cases pieces with
    | nil => exact splitAll_of_not_mem mark piece here
    | cons next others =>
      have parts : join mark (piece :: next :: others) = piece ++ mark :: join mark (next :: others) := rfl
      rw [parts, splitAll_append mark piece _ here, ih (by simp) fun p hp => unmarked p (List.mem_cons_of_mem _ hp)]

theorem cut_of_not_mem (mark : Char) (cs : List Char) (h : mark ∉ cs) : cut mark cs = (cs, none) := by
  induction cs with
  | nil => rfl
  | cons c cs ih =>
    simp only [List.mem_cons, not_or] at h
    simp [cut, Ne.symm h.1, ih h.2]

theorem cut_append (mark : Char) (before after : List Char) (h : mark ∉ before) :
    cut mark (before ++ mark :: after) = (before, some after) := by
  induction before with
  | nil => simp [cut]
  | cons c cs ih =>
    simp only [List.mem_cons, not_or] at h
    simp [cut, Ne.symm h.1, ih h.2]

end RecordPipeline.Text
