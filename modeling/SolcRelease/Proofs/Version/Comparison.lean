import Mathlib.Data.Finset.Card
import Mathlib.Data.Prod.Lex
import SolcRelease.Proofs.Range.Membership
import SolcRelease.Range.Offered

/-!
Versions compared: the relations between versions, the rows of their numbers and the ranges that
hold them all go by the one order of triples, and so does everything that is told of a sorted list.
-/

namespace SolcRelease

namespace VersionRange

/-- A version lies in a range, as far as the relations between versions tell. -/
def Spans : VersionRange → Version → Prop
  | .exact bound, version => version = bound
  | .between lower upper, version => lower ≤ version ∧ version ≤ upper
  | .below upper, version => version < upper

instance decidableSpans (range : VersionRange) (version : Version) :
    Decidable (range.Spans version) :=
  match range with
  | .exact bound => inferInstanceAs (Decidable (version = bound))
  | .between lower upper => inferInstanceAs (Decidable (lower ≤ version ∧ version ≤ upper))
  | .below upper => inferInstanceAs (Decidable (version < upper))

variable {range : VersionRange} {version : Version}

/-- A range holds the versions that lie in it. -/
theorem contains_iff_spans : range.contains version = true ↔ range.Spans version := by
  -- Each form of range is bounded by relations of its own.
  cases range with
  | exact bound => exact contains_exact_iff
  | between lower upper => exact contains_between_iff
  | below upper => exact contains_below_iff

end VersionRange

namespace Version

variable {a b : Version} {versions : List Version}

section Comparing

/-- The three numbers of a version as a triple. -/
def triple (version : Version) : Nat × Nat × Nat :=
  (version.major, version.minor, version.patch)

/-- Versions with the same triple are the same. -/
theorem triple_injective : Function.Injective triple := by
  intro a b same
  -- A version is made of nothing but its three numbers.
  cases a
  cases b
  simpa [triple] using same

/-- Two versions are compared in the same way by relations, by triples and by rows of numbers. -/
structure Compares (a b : Version) : Prop where
  /-- Either version is less, or they are the same, and only one of the three holds. -/
  trichotomy : a < b ∧ a ≠ b ∧ ¬ a > b ∨ ¬ a < b ∧ a = b ∧ ¬ a > b ∨ ¬ a < b ∧ a ≠ b ∧ a > b
  /-- A version is at most another if it is less or the same. -/
  atMost : a ≤ b ↔ a < b ∨ a = b
  /-- A version is at least another if it is greater or the same. -/
  atLeast : a ≥ b ↔ a > b ∨ a = b
  /-- The lesser version has the triple that comes first in the lexicographic order. -/
  lexicographic : a < b ↔ Prod.Lex (· < ·) (Prod.Lex (· < ·) (· < ·)) a.triple b.triple
  /-- The same version has the same triple. -/
  sameTriple : a = b ↔ a.triple = b.triple
  /-- The lesser version has the row that precedes the other. -/
  row : precedes a.parts b.parts = decide (a < b)
  /-- The version that is at most another has a row that the other does not precede. -/
  rowAtMost : (!precedes b.parts a.parts) = decide (a ≤ b)
  /-- The same version has the same row. -/
  sameRow : (a.parts == b.parts) = decide (a = b)

/-- The lesser version has the triple that comes first in the lexicographic order. -/
theorem lt_iff_lex :
    a < b ↔ Prod.Lex (· < ·) (Prod.Lex (· < ·) (· < ·)) a.triple b.triple := by
  rw [lt_iff, Prod.lex_def, Prod.lex_def]
  rfl

/-- Any two versions are compared in the same way by all that compares them. -/
theorem compares (a b : Version) : Compares a b where
  trichotomy := by
    rcases lt_trichotomy a b with less | rfl | greater
    · exact Or.inl ⟨less, less.ne, less.asymm⟩
    · exact Or.inr (Or.inl ⟨lt_irrefl a, rfl, lt_irrefl a⟩)
    · exact Or.inr (Or.inr ⟨greater.asymm, greater.ne', greater⟩)
  atMost := le_iff_lt_or_eq
  atLeast := by
    rw [ge_iff_le, gt_iff_lt, le_iff_lt_or_eq, eq_comm]
  lexicographic := lt_iff_lex
  sameTriple := triple_injective.eq_iff.symm
  row := by
    rw [Bool.eq_iff_iff, precedes_parts_iff, decide_eq_true_iff]
  rowAtMost := by
    rw [Bool.eq_iff_iff, VersionRange.not_precedes_parts_iff, decide_eq_true_iff]
  sameRow := by
    rw [Bool.eq_iff_iff, beq_iff_eq, parts_inj, decide_eq_true_iff]

end Comparing

section Extremes

/-- The least version of a list is in the list, and at most every version there. -/
theorem least?_eq_some_iff :
    least? versions = some a ↔ a ∈ versions ∧ ∀ other ∈ versions, a ≤ other := by
  have minimum : least? versions = versions.min? := by
    cases versions with
    | nil => rfl
    | cons version rest =>
      -- The smaller of the least so far and the next version is kept.
      have step : (fun least v : Version => if v < least then v else least) = min := by
        funext least v
        exact (min_def_lt' least v).symm
      rw [least?, step, List.min?_cons']
  rw [minimum, List.min?_eq_some_iff]

/-- The greatest version of a list is in the list, and at least every version there. -/
theorem greatest?_eq_some_iff :
    greatest? versions = some a ↔ a ∈ versions ∧ ∀ other ∈ versions, other ≤ a := by
  have maximum : greatest? versions = versions.max? := by
    cases versions with
    | nil => rfl
    | cons version rest =>
      have step : (fun most v : Version => if most < v then v else most) = max := by
        funext most v
        exact (max_def_lt most v).symm
      rw [greatest?, step, List.max?_cons']
  rw [maximum, List.max?_eq_some_iff]

/-- Sorting leaves nothing of no versions only. -/
theorem sorted_eq_nil_iff : sorted versions = [] ↔ versions = [] := by
  rw [← List.length_eq_zero_iff, (sorted_perm versions).length_eq, List.length_eq_zero_iff]

/-- Sorted versions begin with the least. -/
theorem head?_sorted (versions : List Version) : (sorted versions).head? = least? versions := by
  cases order : sorted versions with
  | nil =>
    rw [sorted_eq_nil_iff.mp order]
    rfl
  | cons first rest =>
    have ascending := sorted_pairwise versions
    rw [order] at ascending
    symm
    refine least?_eq_some_iff.mpr ⟨?_, fun other member => ?_⟩
    · rw [← mem_sorted, order]
      exact List.mem_cons_self
    · -- Every other version stands behind the first one.
      rw [← mem_sorted, order] at member
      rcases List.mem_cons.mp member with rfl | behind
      · exact le_refl other
      · exact List.rel_of_pairwise_cons ascending behind

/-- Sorted versions end with the greatest. -/
theorem getLast?_sorted (versions : List Version) :
    (sorted versions).getLast? = greatest? versions := by
  rcases List.eq_nil_or_concat (sorted versions) with order | ⟨before, last, order⟩
  · rw [order, sorted_eq_nil_iff.mp order]
    rfl
  · rw [List.concat_eq_append] at order
    have ascending := sorted_pairwise versions
    rw [order] at ascending
    rw [order, List.getLast?_concat]
    symm
    refine greatest?_eq_some_iff.mpr ⟨?_, fun other member => ?_⟩
    · rw [← mem_sorted, order]
      exact List.mem_append_right before List.mem_cons_self
    · -- Every other version stands before the last one.
      rw [← mem_sorted, order] at member
      rcases List.mem_append.mp member with ahead | isLast
      · exact (List.pairwise_append.mp ascending).2.2 other ahead last List.mem_cons_self
      · exact le_of_eq (List.mem_singleton.mp isLast)

end Extremes

section Counting

/-- Of the distinct versions of a list each is there once. -/
theorem nodup_distinct (versions : List Version) : (distinct versions).Nodup := by
  -- Behind the first version something shorter than the rest is left, so the length goes down.
  induction size : versions.length using Nat.strong_induction_on generalizing versions with
  | _ length ih =>
    cases versions with
    | nil => exact List.nodup_nil
    | cons version rest =>
      have shorter : (rest.filter fun other => !other == version).length < length := by
        rw [← size, List.length_cons]
        exact Nat.lt_succ_of_le (List.length_filter_le _ rest)
      rw [distinct, List.eraseDups_cons, List.nodup_cons]
      refine ⟨?_, ih _ shorter _ rfl⟩
      -- What equals the first version was filtered out of the rest.
      rw [List.mem_eraseDups, List.mem_filter]
      simp

/-- There are as many distinct versions in a list as there are distinct triples. -/
theorem length_distinct (versions : List Version) :
    (distinct versions).length = (versions.map triple).toFinset.card := by
  have once : ((distinct versions).map triple).Nodup :=
    (nodup_distinct versions).map triple_injective
  have same : ((distinct versions).map triple).toFinset = (versions.map triple).toFinset := by
    ext numbers
    -- Leaving out what is there twice leaves out no version.
    simp only [List.mem_toFinset, List.mem_map, distinct, List.mem_eraseDups]
  rw [← same, List.toFinset_card_of_nodup once, List.length_map]

end Counting

/-- What sorting makes of versions: their one ascending order, from the least to the greatest. -/
structure SortsWell (versions : List Version) : Prop where
  /-- No version is lost or added. -/
  perm : (sorted versions).Perm versions
  /-- No version comes after a greater one. -/
  ascending : (sorted versions).Pairwise (· ≤ ·)
  /-- The sorted list depends on which versions there are and how often, and on nothing else. -/
  forgets : ∀ others, sorted others = sorted versions ↔ others.Perm versions
  /-- The first version is the least. -/
  first : (sorted versions).head? = least? versions
  /-- The last version is the greatest. -/
  last : (sorted versions).getLast? = greatest? versions
  /-- The least version is at most every version there is. -/
  least : ∀ version, least? versions = some version ↔
    version ∈ versions ∧ ∀ other ∈ versions, version ≤ other
  /-- The greatest version is at least every version there is. -/
  greatest : ∀ version, greatest? versions = some version ↔
    version ∈ versions ∧ ∀ other ∈ versions, other ≤ version
  /-- As many versions are distinct as triples are. -/
  counted : (distinct versions).length = (versions.map triple).toFinset.card

/-- Any versions are sorted well. -/
theorem sortsWell (versions : List Version) : SortsWell versions where
  perm := sorted_perm versions
  ascending := sorted_pairwise versions
  forgets others := by
    constructor
    · intro same
      -- Both lists have the versions of the one sorted list.
      have others_perm := (sorted_perm others).symm
      rw [same] at others_perm
      exact others_perm.trans (sorted_perm versions)
    · exact sorted_eq_of_perm
  first := head?_sorted versions
  last := getLast?_sorted versions
  least _ := least?_eq_some_iff
  greatest _ := greatest?_eq_some_iff
  counted := length_distinct versions

/--
Versions are in one linear order, that of their triples: relations, rows of numbers and ranges all
compare by it, and so does sorting.
-/
theorem comparisons_agree :
    (∀ a b : Version, Compares a b) ∧
    (∀ a b c : Version, (a < b → b < c → a < c) ∧ (a ≤ b → b ≤ c → a ≤ c)) ∧
    (∀ (range : VersionRange) (version : Version), (Offered.range range).contains version =
      .ok (decide (range.Spans version))) ∧
    ∀ versions : List Version, SortsWell versions := by
  refine ⟨compares, fun a b c => ⟨lt_trans, le_trans⟩, fun range version => ?_, sortsWell⟩
  have held : range.contains version = decide (range.Spans version) := by
    rw [Bool.eq_iff_iff, VersionRange.contains_iff_spans, decide_eq_true_iff]
  rw [← held]
  rfl

end Version

end SolcRelease
