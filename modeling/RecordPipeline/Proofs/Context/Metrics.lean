import Mathlib.Data.List.Nodup
import Mathlib.Data.List.Perm.Subperm
import RecordPipeline.Context
import RecordPipeline.Proofs.Value.Named
set_option autoImplicit false

namespace RecordPipeline

theorem Text.append_cons_eq_iff {mark : Char} {front back front' back' : List Char} :
    front ++ mark :: back = front' ++ mark :: back' ↔
      (front = front' ∧ back = back') ∨
      (∃ mid, front' = front ++ mark :: mid ∧ back = mid ++ mark :: back') ∨
      (∃ mid, front = front' ++ mark :: mid ∧ back' = mid ++ mark :: back) := by
  rw [List.append_eq_append_iff]
  constructor
  · rintro (⟨_ | ⟨c, mid⟩, further, rest⟩ | ⟨_ | ⟨c, mid⟩, further, rest⟩)
    · simp_all
    · cases rest
      exact .inr (.inl ⟨mid, further, rfl⟩)
    · simp_all
    · cases rest
      exact .inr (.inr ⟨mid, further, rfl⟩)
  · rintro (⟨rfl, rfl⟩ | ⟨mid, rfl, rfl⟩ | ⟨mid, rfl, rfl⟩)
    · exact .inl ⟨[], by simp, rfl⟩
    · exact .inl ⟨mark :: mid, rfl, rfl⟩
    · exact .inr ⟨mark :: mid, rfl, rfl⟩

namespace Context

def merging (c : Context) : List (String × Value) :=
  c.metadata.metrics.map fun m => (mergedMetric c.metadata.processorName m.1, m.2)

/-- Each metric of each child has an entry of its own among those of the context they are merged
into. -/
def Keeps (children : List Context) (merged : Context) : Prop :=
  (children.flatMap merging).Subperm merged.metadata.metrics

/-- Two names of processors, each with one of a metric, that are joined alike. Either they are the
same, or one processor's name goes on after that of the other with an underscore, and with what the
other's metric starts with. -/
def Clash (name key name' key' : String) : Prop :=
  (name = name' ∧ key = key') ∨
  (∃ mid, name' = name ++ "_" ++ mid ∧ key = mid ++ "_" ++ key') ∨
  (∃ mid, name = name' ++ "_" ++ mid ∧ key' = mid ++ "_" ++ key)

def Apart (c c' : Context) : Prop :=
  ∀ m ∈ c.metadata.metrics, ∀ m' ∈ c'.metadata.metrics,
    ¬ Clash c.metadata.processorName m.1 c'.metadata.processorName m'.1

theorem mergedMetric_eq_iff {name key name' key' : String} :
    mergedMetric name key = mergedMetric name' key' ↔ Clash name key name' key' := by
  have joined (name key : String) : (mergedMetric name key).toList = name.toList ++ '_' :: key.toList := by
    simp [mergedMetric]
  have text (p : List Char → Prop) : (∃ mid, p mid) ↔ ∃ mid : String, p mid.toList :=
    ⟨fun ⟨mid, h⟩ => ⟨String.ofList mid, by simpa using h⟩, fun ⟨mid, h⟩ => ⟨mid.toList, h⟩⟩
  have mark : ("_" : String).toList = ['_'] := rfl
  rw [← String.toList_inj, joined, joined, Text.append_cons_eq_iff]
  simp only [Clash, text, ← String.toList_inj, String.toList_append, mark, List.append_assoc, List.singleton_append]

section Merged

theorem metrics_merge (parent child : Context) :
    (parent.merge child).metadata.metrics = putAllNamed parent.metadata.metrics child.merging := by
  simp only [merge, putAllNamed, merging, List.foldl_map]

theorem metrics_foldl_merge (parent : Context) (children : List Context) :
    (children.foldl merge parent).metadata.metrics =
      putAllNamed parent.metadata.metrics (children.flatMap merging) := by
  induction children generalizing parent with
  | nil => rfl
  | cons child children ih =>
    rw [List.foldl_cons, ih, metrics_merge, List.flatMap_cons, putAllNamed_append]

variable {parent : Context} {children : List Context}

theorem apart_iff {c c' : Context} : Apart c c' ↔ (c.merging.map Prod.fst).Disjoint (c'.merging.map Prod.fst) := by
  simp only [Apart, ← mergedMetric_eq_iff, merging, List.map_map, List.disjoint_iff_ne, List.forall_mem_map,
    Function.comp_apply, ne_eq]

theorem nodup_merging {c : Context} (once : (c.metadata.metrics.map Prod.fst).Nodup) :
    (c.merging.map Prod.fst).Nodup := by
  have joined : c.merging.map Prod.fst =
      (c.metadata.metrics.map Prod.fst).map (mergedMetric c.metadata.processorName) := by
    simp only [merging, List.map_map, Function.comp_def]
  have injective : Function.Injective (mergedMetric c.metadata.processorName) := fun key key' same => by
    simpa [mergedMetric] using same
  rw [joined]
  exact once.map injective

theorem nodup_flatMap_merging : ((children.flatMap merging).map Prod.fst).Nodup ↔
    (∀ c ∈ children, (c.merging.map Prod.fst).Nodup) ∧ children.Pairwise Apart := by
  have apart : Apart = (fun c c' => (c.merging.map Prod.fst).Disjoint (c'.merging.map Prod.fst)) :=
    funext fun c => funext fun c' => propext apart_iff
  rw [List.map_flatMap, List.nodup_flatMap, apart]

theorem nodup_foldl_merge (bare : parent.metadata.metrics = []) (children : List Context) :
    ((children.foldl merge parent).metadata.metrics.map Prod.fst).Nodup := by
  rw [metrics_foldl_merge, bare]
  exact nodup_putAllNamed (by simp) _

theorem Keeps.apart (bare : parent.metadata.metrics = []) (keeps : Keeps children (children.foldl merge parent)) :
    children.Pairwise Apart := by
  obtain ⟨metrics, perm, part⟩ := keeps
  have each : (metrics.map Prod.fst).Nodup := (nodup_foldl_merge bare children).sublist (part.map Prod.fst)
  exact (nodup_flatMap_merging.mp ((perm.map Prod.fst).nodup_iff.mp each)).2

/-- Whatever children are merged into a context without metrics, under each name it has the last of
the metrics that are merged under it. None of them is lost if and only if no two children have
metrics that clash, and otherwise there are fewer of them than the children had. -/
theorem merge_keeps_iff (bare : parent.metadata.metrics = [])
    (once : ∀ c ∈ children, (c.metadata.metrics.map Prod.fst).Nodup) :
    (∀ name, (children.foldl merge parent).metadata.metrics.lookup name =
      (children.flatMap merging).reverse.lookup name) ∧
    (Keeps children (children.foldl merge parent) ↔ children.Pairwise Apart) ∧
    (¬ children.Pairwise Apart → (children.foldl merge parent).metadata.metrics.length <
      (children.map fun c => c.metadata.metrics.length).sum) := by
  have merged := metrics_foldl_merge parent children
  rw [bare] at merged
  refine ⟨fun name => ?last, ⟨Keeps.apart bare, fun apart => ?keeps⟩, fun clash => ?fewer⟩
  case last => rw [merged, lookup_putAllNamed]
  case keeps =>
    have differ := nodup_flatMap_merging.mpr ⟨fun c member => nodup_merging (once c member), apart⟩
    rw [Keeps, merged, putAllNamed_of_nodup differ]
  case fewer =>
    have total : (children.flatMap merging).length = (children.map fun c => c.metadata.metrics.length).sum := by
      simp only [List.length_flatMap, merging, List.length_map]
    have among : (children.foldl merge parent).metadata.metrics.Subperm (children.flatMap merging) := by
      refine (nodup_foldl_merge bare children).of_map.subperm fun m member => ?_
      rw [merged] at member
      exact mem_of_mem_putAllNamed member
    rw [← total]
    refine Nat.lt_of_not_le fun enough => clash (Keeps.apart bare ?_)
    exact (among.perm_of_length_le enough).symm.subperm

theorem merge_keeps_iff_middle :
    let parent : Context := { pipelineName := .text "telemetry" }
    let reporting (name key : String) (n : Int) : Context := (parent.child name).addMetric key (.int n)
    let clashing := [reporting "speed" "limit_max" 1, reporting "speed_limit" "max" 2]
    let apart := [reporting "speed" "limit_max" 1, reporting "gear" "max" 2]
    ¬ Keeps clashing (clashing.foldl merge parent) ∧ Keeps apart (apart.foldl merge parent) := by
  intro parent reporting clashing apart
  have once (name key : String) (n : Int) : ((reporting name key n).metadata.metrics.map Prod.fst).Nodup := by
    simp [reporting, addMetric, child, putNamed]
  have first : ∀ c ∈ clashing, (c.metadata.metrics.map Prod.fst).Nodup := by simp [clashing, once]
  have second : ∀ c ∈ apart, (c.metadata.metrics.map Prod.fst).Nodup := by simp [apart, once]
  constructor
  · rw [(@merge_keeps_iff parent clashing rfl first).2.1]
    intro separate
    refine List.rel_of_pairwise_cons separate List.mem_cons_self _ List.mem_cons_self _ List.mem_cons_self ?_
    exact .inr (.inl ⟨"limit", rfl, rfl⟩)
  · rw [(@merge_keeps_iff parent apart rfl second).2.1, List.pairwise_pair]
    simp only [Apart, ← mergedMetric_eq_iff]
    decide

/-- Two processors of one name both report how many records they have converted. -/
theorem not_keeps_of_one_name :
    ¬ ∀ (parent : Context) (children : List Context), parent.metadata.metrics = [] →
      (∀ c ∈ children, (c.metadata.metrics.map Prod.fst).Nodup) →
        Keeps children (children.foldl merge parent) := by
  intro keeps
  let parent : Context := { pipelineName := .text "telemetry" }
  let mapper (n : Int) : Context := (parent.child "field_mapping").addMetric "records_converted" (.int n)
  have once : ∀ c ∈ [mapper 1, mapper 2], (c.metadata.metrics.map Prod.fst).Nodup := by
    simp [mapper, addMetric, child, putNamed]
  have apart := Keeps.apart rfl (keeps parent [mapper 1, mapper 2] rfl once)
  exact List.rel_of_pairwise_cons apart List.mem_cons_self _ List.mem_cons_self _ List.mem_cons_self
    (.inl ⟨rfl, rfl⟩)

end Merged

end Context

end RecordPipeline
