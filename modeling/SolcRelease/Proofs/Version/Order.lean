import Mathlib.Order.Defs.LinearOrder
import SolcRelease.Range.Basic
import SolcRelease.Version.Basic

/-! The order of versions, which is linear, and lists of versions sorted by it. -/

namespace SolcRelease

namespace Version

variable {a b c : Version} {versions : List Version}

section Order

/-- The first number that differs decides which of two versions comes first. -/
theorem lt_iff : a < b ↔ a.major < b.major ∨ a.major = b.major ∧
    (a.minor < b.minor ∨ a.minor = b.minor ∧ a.patch < b.patch) :=
  Iff.rfl

/-- A version is at most another if the first number that differs is smaller, or none differs. -/
theorem le_iff : a ≤ b ↔ a.major < b.major ∨ a.major = b.major ∧
    (a.minor < b.minor ∨ a.minor = b.minor ∧ a.patch ≤ b.patch) := by
  -- Two versions are equal if all three numbers are.
  have le : a ≤ b ↔ a < b ∨ a = b := Iff.rfl
  rw [le, lt_iff, Version.mk.injEq]
  -- What is left is the order of the three pairs of numbers.
  omega

/-- Versions are in a linear order. -/
instance : LinearOrder Version where
  -- Each law is one of the lexicographic order of three numbers.
  le_refl a := by
    rw [le_iff]
    omega
  le_trans a b c := by
    rw [le_iff, le_iff, le_iff]
    omega
  le_antisymm a b := by
    rw [le_iff, le_iff, Version.mk.injEq]
    omega
  le_total a b := by
    rw [le_iff, le_iff]
    omega
  lt_iff_le_not_ge a b := by
    rw [lt_iff, le_iff, le_iff]
    omega
  toDecidableLE := decidableLe
  toDecidableLT := decidableLt

/-- The rows of their numbers tell which of two versions comes first. -/
theorem precedes_parts_iff : precedes a.parts b.parts = true ↔ a < b := by
  simp only [parts, precedes, Bool.or_eq_true, Bool.and_eq_true, decide_eq_true_eq, beq_iff_eq,
    Bool.false_eq_true, and_false, or_false, lt_iff]

/-- The rows of their numbers tell whether two versions are the same. -/
theorem parts_inj : a.parts = b.parts ↔ a = b := by
  constructor
  · intro same
    -- The row has the three numbers as its items.
    cases a
    cases b
    simpa [parts] using same
  · intro same
    rw [same]

end Order

section Sorting

/-- Sorting keeps every version as often as it is there. -/
theorem sorted_perm (versions : List Version) : (sorted versions).Perm versions :=
  List.mergeSort_perm versions _

/-- Sorted versions ascend. -/
theorem sorted_pairwise (versions : List Version) : (sorted versions).Pairwise (· ≤ ·) := by
  -- Sorting takes an order that tells for any two versions, and keeps to what it tells.
  have transitive (a b c : Version) (first : decide (a ≤ b)) (second : decide (b ≤ c)) :
      decide (a ≤ c) :=
    decide_eq_true (le_trans (of_decide_eq_true first) (of_decide_eq_true second))
  have total (a b : Version) : decide (a ≤ b) || decide (b ≤ a) := by
    simpa using le_total a b
  exact (List.pairwise_mergeSort transitive total versions).imp of_decide_eq_true

/-- Sorting forgets the order that the versions had. -/
theorem sorted_eq_of_perm {others : List Version} (same : versions.Perm others) :
    sorted versions = sorted others := by
  have perm : (sorted versions).Perm (sorted others) :=
    ((sorted_perm versions).trans same).trans (sorted_perm others).symm
  -- Versions ascend in one order only, since no two of them are each at most the other.
  exact perm.eq_of_pairwise (fun a b _ _ first second => le_antisymm first second)
    (sorted_pairwise versions) (sorted_pairwise others)

/-- The same versions are in a list when it is sorted. -/
theorem mem_sorted : a ∈ sorted versions ↔ a ∈ versions :=
  (sorted_perm versions).mem_iff

/-- Sorted versions ascend strictly if none of them is there twice. -/
theorem sorted_pairwise_lt (once : versions.Nodup) : (sorted versions).Pairwise (· < ·) := by
  have distinct : (sorted versions).Nodup := (sorted_perm versions).nodup_iff.mpr once
  -- Neighbours are in order, and they differ.
  exact (sorted_pairwise versions).imp₂ (fun a b le ne => lt_of_le_of_ne le ne) distinct

/-- Versions that ascend are sorted already. -/
theorem sorted_eq_self (ascending : versions.Pairwise (· ≤ ·)) : sorted versions = versions :=
  List.mergeSort_of_pairwise (ascending.imp decide_eq_true)

/-- Among ascending versions, those with a property stand first if it goes down to all below. -/
theorem filter_append_filter_not {holds : Version → Bool}
    (ascending : versions.Pairwise (· ≤ ·))
    (downward : ∀ a b, a ≤ b → holds b = true → holds a = true) :
    versions.filter holds ++ versions.filter (fun version => !holds version) = versions := by
  induction versions with
  | nil => rfl
  | cons version rest ih =>
    obtain ⟨least, others⟩ := List.pairwise_cons.mp ascending
    by_cases first : holds version = true
    · simp [first, ih others]
    · -- Without the first version none has the property, since all the others lie above it.
      have none : ∀ other ∈ rest, ¬ holds other = true := fun other member held =>
        first (downward version other (least other member) held)
      have nothing : rest.filter holds = [] := List.filter_eq_nil_iff.mpr none
      have everything : rest.filter (fun other => !holds other) = rest :=
        List.filter_eq_self.mpr fun other member => by simpa using none other member
      simp [first, nothing, everything]

/-- Among ascending versions, those with either property are those with the first, then others. -/
theorem filter_append_filter {first second : Version → Bool}
    (ascending : versions.Pairwise (· ≤ ·))
    (downward : ∀ a b, a ≤ b → first b = true → first a = true)
    (apart : ∀ version, first version = true → second version = false) :
    versions.filter first ++ versions.filter second =
      versions.filter fun version => first version || second version := by
  have either := ascending.filter fun version => first version || second version
  -- The versions with either property are cut where the first one ends.
  rw [← filter_append_filter_not either downward, List.filter_filter, List.filter_filter]
  congr 1
  · refine List.filter_congr fun version _ => ?_
    cases first version <;> simp
  · refine List.filter_congr fun version _ => ?_
    cases held : first version
    · simp
    · simp [apart version held]

/-- Among ascending versions, those with a property stand in one block if no gap is in it. -/
theorem exists_append_filter_append {holds : Version → Bool}
    (ascending : versions.Pairwise (· ≤ ·))
    (convex : ∀ a b c, a ≤ b → b ≤ c → holds a = true → holds c = true → holds b = true) :
    ∃ before after, versions = before ++ versions.filter holds ++ after ∧
      ∀ version ∈ before ++ after, holds version = false := by
  -- The least version stands in front of the block of the others, or else it begins the block.
  induction versions with
  | nil => exact ⟨[], [], rfl, by simp⟩
  | cons version rest ih =>
    obtain ⟨least, others⟩ := List.pairwise_cons.mp ascending
    obtain ⟨before, after, parts, outside⟩ := ih others
    by_cases first : holds version = true
    · rw [List.filter_cons_of_pos first]
      by_cases block : rest.filter holds = []
      · -- No other version has the property, so the block ends with the first one.
        refine ⟨[], rest, by simp [block], fun other inside => ?_⟩
        simpa using List.filter_eq_nil_iff.mp block other inside
      · -- Whatever stood between the first version and the block would have the property too.
        obtain ⟨held, inBlock⟩ := List.exists_mem_of_ne_nil _ block
        have nothing : before = [] := by
          refine List.eq_nil_iff_forall_not_mem.mpr fun between inside => ?_
          have isOutside := outside between (List.mem_append_left _ inside)
          have isOther : between ∈ rest := by
            rw [parts]
            simp [inside]
          rw [parts, List.append_assoc] at others
          have order : between ≤ held :=
            (List.pairwise_append.mp others).2.2 between inside held
              (List.mem_append_left _ inBlock)
          have holdsToo := convex version between held (least between isOther) order first
            (List.mem_filter.mp inBlock).2
          rw [isOutside] at holdsToo
          cases holdsToo
        subst nothing
        exact ⟨[], after, congrArg (version :: ·) parts, outside⟩
    · rw [List.filter_cons_of_neg first]
      refine ⟨version :: before, after, congrArg (version :: ·) parts, fun other member => ?_⟩
      rcases List.mem_cons.mp member with rfl | inside
      · simpa using first
      · exact outside other inside

end Sorting

end Version

end SolcRelease
