import Mathlib.Data.Set.Insert
import RecordPipeline.Proofs.Version.Text
set_option autoImplicit false

/-!
What versions stand for. A full version stands for one release and a shorthand one for all releases
of its major part. Two versions are compatible exactly if they have a release in common, which is
why compatibility is not transitive; and they are equal exactly if they are compatible with the same
versions.
-/

namespace RecordPipeline.Version

/-- The releases that a version stands for, each by its major and its minor number. -/
def releases (v : Version) : Set (Nat × Nat) :=
  {r | v.major = .int r.1 ∧ ∀ minor ∈ v.minor, minor = .int r.2}

def IsNatural (v : Version) : Prop := ∃ major minor, v = ofNaturals major minor

def Compatible (a b : Version) : Prop := a.compatible b = .ok true

def full (r : Nat × Nat) : Version := ofNaturals r.1 (some r.2)

section Numbers

variable {major major' : Nat} {minor minor' : Option Nat}

theorem isNatural_ofNaturals (major : Nat) (minor : Option Nat) : IsNatural (ofNaturals major minor) :=
  ⟨major, minor, rfl⟩

theorem isNatural_full (r : Nat × Nat) : IsNatural (full r) := isNatural_ofNaturals r.1 (some r.2)

theorem mem_releases_iff {r : Nat × Nat} :
    r ∈ (ofNaturals major minor).releases ↔ r.1 = major ∧ ∀ n ∈ minor, r.2 = n := by
  cases minor <;> simp [releases, ofNaturals, ofNumbers, @eq_comm Nat major, @eq_comm Nat _ r.2]

theorem nonempty_inter_releases_iff :
    ((ofNaturals major minor).releases ∩ (ofNaturals major' minor').releases).Nonempty ↔
      major = major' ∧ ∀ n ∈ minor, ∀ n' ∈ minor', n = n' := by
  constructor
  · rintro ⟨r, here, there⟩
    obtain ⟨rfl, same⟩ := mem_releases_iff.mp here
    obtain ⟨rfl, same'⟩ := mem_releases_iff.mp there
    exact ⟨rfl, fun n member n' member' => (same n member).symm.trans (same' n' member')⟩
  · rintro ⟨rfl, same⟩
    cases minor with
    | none => exact ⟨(major, minor'.getD 0), by cases minor' <;> simp [mem_releases_iff]⟩
    | some n =>
      have agrees : ∀ n' ∈ minor', n = n' := same n rfl
      exact ⟨(major, n), mem_releases_iff.mpr ⟨rfl, by simp⟩, mem_releases_iff.mpr ⟨rfl, agrees⟩⟩

theorem compatible_ofNaturals : (ofNaturals major minor).compatible (ofNaturals major' minor') =
    .ok (decide (major = major' ∧ ∀ n ∈ minor, ∀ n' ∈ minor', n = n')) := by
  rw [ofNaturals, ofNaturals, compatible_ofNumbers]
  cases minor <;> cases minor' <;> simp

theorem releases_inj :
    (ofNaturals major minor).releases = (ofNaturals major' minor').releases ↔ major = major' ∧ minor = minor' := by
  constructor
  · intro same
    have agree (r : Nat × Nat) : (r.1 = major ∧ ∀ n ∈ minor, r.2 = n) ↔ r.1 = major' ∧ ∀ n ∈ minor', r.2 = n := by
      rw [← mem_releases_iff, ← mem_releases_iff, same]
    cases minor with
    | none =>
      cases minor' with
      | none => exact ⟨((agree (major, 0)).mp (by simp)).1, rfl⟩
      | some n' =>
        have other := (agree (major, n' + 1)).mp (by simp)
        exact absurd (other.2 n' rfl) (Nat.succ_ne_self n')
    | some n =>
      cases minor' with
      | none =>
        have other := (agree (major', n + 1)).mpr (by simp)
        exact absurd (other.2 n rfl) (Nat.succ_ne_self n)
      | some n' =>
        obtain ⟨first, second⟩ := (agree (major, n)).mp (by simp)
        exact ⟨first, congrArg some (second n' rfl)⟩
  · rintro ⟨rfl, rfl⟩
    rfl

end Numbers

section Meaning

variable {a b c : Version}

theorem exists_compatible_eq_ok (natural : IsNatural a) (natural' : IsNatural b) :
    ∃ same, a.compatible b = .ok same ∧ (same = true ↔ (a.releases ∩ b.releases).Nonempty) := by
  obtain ⟨major, minor, rfl⟩ := natural
  obtain ⟨major', minor', rfl⟩ := natural'
  exact ⟨_, compatible_ofNaturals, by rw [nonempty_inter_releases_iff, decide_eq_true_iff]⟩

theorem compatible_iff_nonempty (natural : IsNatural a) (natural' : IsNatural b) :
    Compatible a b ↔ (a.releases ∩ b.releases).Nonempty := by
  obtain ⟨same, compared, agrees⟩ := exists_compatible_eq_ok natural natural'
  rw [Compatible, compared, ← agrees, Except.ok.injEq]

theorem compatible_self (natural : IsNatural a) : Compatible a a := by
  rw [compatible_iff_nonempty natural natural]
  obtain ⟨major, minor, rfl⟩ := natural
  refine nonempty_inter_releases_iff.mpr ⟨rfl, fun n member n' member' => ?_⟩
  exact Option.some.inj (member.symm.trans member')

theorem compatible_comm (natural : IsNatural a) (natural' : IsNatural b) : Compatible a b ↔ Compatible b a := by
  rw [compatible_iff_nonempty natural natural', compatible_iff_nonempty natural' natural, Set.inter_comm]

theorem releases_full (r : Nat × Nat) : (full r).releases = {r} := by
  ext other
  rw [full, mem_releases_iff, Set.mem_singleton_iff, Prod.ext_iff]
  simp

theorem compatible_full_iff (natural : IsNatural a) (r : Nat × Nat) : Compatible a (full r) ↔ r ∈ a.releases := by
  rw [compatible_iff_nonempty natural (isNatural_full r), releases_full, Set.inter_singleton_nonempty]

/-- Only a shorthand version lies between two versions that are not compatible, as no single release
is in both of them. -/
theorem between_incompatible_iff (naturalA : IsNatural a) (naturalB : IsNatural b) (naturalC : IsNatural c) :
    Compatible a b ∧ Compatible b c ∧ ¬ Compatible a c ↔
      ∃ major m n, m ≠ n ∧ b = ofNaturals major none ∧ a = full (major, m) ∧ c = full (major, n) := by
  constructor
  case mpr =>
    rintro ⟨major, m, n, different, rfl, rfl, rfl⟩
    refine ⟨?_, ?_, ?_⟩
    · exact (compatible_comm (isNatural_full _) naturalB).mpr
        ((compatible_full_iff naturalB (major, m)).mpr (mem_releases_iff.mpr ⟨rfl, by simp⟩))
    · exact (compatible_full_iff naturalB (major, n)).mpr (mem_releases_iff.mpr ⟨rfl, by simp⟩)
    · simpa [compatible_full_iff (isNatural_full _), releases_full] using different.symm
  case mp =>
    rintro ⟨left, right, apart⟩
    obtain ⟨major, minor, rfl⟩ := naturalB
    cases minor with
    | some n =>
      have here := (compatible_full_iff naturalA (major, n)).mp left
      have there := (compatible_full_iff naturalC (major, n)).mp
        ((compatible_comm (isNatural_full _) naturalC).mp right)
      exact absurd ((compatible_iff_nonempty naturalA naturalC).mpr ⟨_, here, there⟩) apart
    | none =>
      rw [compatible_iff_nonempty naturalA (isNatural_ofNaturals _ _)] at left
      rw [compatible_iff_nonempty (isNatural_ofNaturals _ _) naturalC] at right
      rw [compatible_iff_nonempty naturalA naturalC] at apart
      obtain ⟨first, minor, rfl⟩ := naturalA
      obtain ⟨last, minor', rfl⟩ := naturalC
      obtain ⟨rfl, -⟩ := nonempty_inter_releases_iff.mp left
      obtain ⟨rfl, -⟩ := nonempty_inter_releases_iff.mp right
      rw [nonempty_inter_releases_iff] at apart
      cases minor with
      | none => exact absurd ⟨rfl, by simp⟩ apart
      | some m =>
        cases minor' with
        | none => exact absurd ⟨rfl, by simp⟩ apart
        | some n => exact ⟨first, m, n, fun same => apart ⟨rfl, by simpa using same⟩, rfl, rfl, rfl⟩

theorem releases_eq_iff (natural : IsNatural a) (natural' : IsNatural b) :
    a.releases = b.releases ↔ ∀ c, IsNatural c → (Compatible a c ↔ Compatible b c) := by
  constructor
  · intro same c naturalC
    rw [compatible_iff_nonempty natural naturalC, compatible_iff_nonempty natural' naturalC, same]
  · intro alike
    ext r
    rw [← compatible_full_iff natural, ← compatible_full_iff natural']
    exact alike (full r) (isNatural_ofNaturals _ _)

theorem equal_eq_true_iff_releases (natural : IsNatural a) (natural' : IsNatural b) :
    a.equal b = .ok true ↔ a.releases = b.releases := by
  obtain ⟨major, minor, rfl⟩ := natural
  obtain ⟨major', minor', rfl⟩ := natural'
  rw [equal_ofNaturals, releases_inj, Except.ok.injEq, decide_eq_true_iff]

end Meaning

/-- Versions are compatible exactly if they have a release in common. So compatibility is reflexive
and symmetric; where it is not transitive, a shorthand version lies between two full ones of its
major part with different minors; and versions are equal exactly if they are compatible with the
same versions. -/
theorem compatible_iff_common_release :
    (∀ a b, IsNatural a → IsNatural b →
      ∃ same, a.compatible b = .ok same ∧ (same = true ↔ (a.releases ∩ b.releases).Nonempty)) ∧
    (∀ a, IsNatural a → Compatible a a) ∧
    (∀ a b, IsNatural a → IsNatural b → (Compatible a b ↔ Compatible b a)) ∧
    (∀ a b c, IsNatural a → IsNatural b → IsNatural c → (Compatible a b ∧ Compatible b c ∧ ¬ Compatible a c ↔
      ∃ major m n, m ≠ n ∧ b = ofNaturals major none ∧ a = full (major, m) ∧ c = full (major, n))) ∧
    ∀ a b, IsNatural a → IsNatural b →
      (a.equal b = .ok true ↔ ∀ c, IsNatural c → (Compatible a c ↔ Compatible b c)) := by
  refine ⟨fun a b => exists_compatible_eq_ok, fun a => compatible_self, fun a b => compatible_comm,
    fun a b c => between_incompatible_iff, fun a b natural natural' => ?_⟩
  rw [equal_eq_true_iff_releases natural natural', releases_eq_iff natural natural']

theorem compatible_iff_common_release_between : ∃ a b c, IsNatural a ∧ IsNatural b ∧ IsNatural c ∧
    Compatible a b ∧ Compatible b c ∧ ¬ Compatible a c ∧ b = ofNaturals 2 none ∧
    (a.releases ∩ b.releases).Nonempty ∧ Compatible a a ∧ Compatible c b ∧
    ¬ ∀ d, IsNatural d → (Compatible a d ↔ Compatible b d) := by
  let a := full (2, 1)
  let b := ofNaturals 2 none
  let c := full (2, 2)
  have naturalA : IsNatural a := isNatural_full (2, 1)
  have naturalB : IsNatural b := isNatural_ofNaturals 2 none
  have naturalC : IsNatural c := isNatural_full (2, 2)
  obtain ⟨meets, self, comm, between, equal⟩ := compatible_iff_common_release
  obtain ⟨left, right, apart⟩ :=
    (between a b c naturalA naturalB naturalC).mpr ⟨2, 1, 2, by decide, rfl, rfl, rfl⟩
  obtain ⟨same, compared, met⟩ := meets a b naturalA naturalB
  have common : same = true := Except.ok.inj (compared.symm.trans left)
  have unequal : ¬ a.equal b = .ok true := by
    intro same
    cases same
  exact ⟨a, b, c, naturalA, naturalB, naturalC, left, right, apart, rfl, met.mp common, self a naturalA,
    (comm b c naturalB naturalC).mp right, mt (equal a b naturalA naturalB).mpr unequal⟩

end RecordPipeline.Version
