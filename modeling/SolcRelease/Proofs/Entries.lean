import SolcRelease.Entries

/-! Entries with one value to a key: looking a key up finds the entry that holds it. -/

namespace SolcRelease

namespace Entries

variable {α : Type} {entries : Entries α} {key : Text} {value : α}

/-- Entries are distinct if no key is there twice. -/
def Distinct (entries : Entries α) : Prop :=
  (entries.map Prod.fst).Nodup

instance (entries : Entries α) : Decidable entries.Distinct :=
  inferInstanceAs (Decidable (entries.map Prod.fst).Nodup)

/-- What is found under a key is in the entries. -/
theorem mem_of_get? (found : entries.get? key = some value) : (key, value) ∈ entries := by
  -- The entry that is found stands behind entries with other keys.
  obtain ⟨before, after, rfl, -⟩ := List.lookup_eq_some_iff.mp found
  simp

/-- Looking a key of distinct entries up finds its value. -/
theorem get?_eq_some_iff (distinct : entries.Distinct) :
    entries.get? key = some value ↔ (key, value) ∈ entries := by
  refine ⟨mem_of_get?, fun member => ?_⟩
  obtain ⟨before, after, rfl⟩ := List.append_of_mem member
  refine List.lookup_eq_some_iff.mpr ⟨before, after, rfl, ?_⟩
  intro entry earlier
  -- The entries in front of this one have other keys, so the search goes past them.
  have apart : ∀ other ∈ before.map Prod.fst, other ≠ key := by
    intro other inside same
    have once := distinct
    rw [Distinct, List.map_append, List.map_cons, List.nodup_append] at once
    exact once.2.2 other inside key (by simp) same
  simpa using (apart entry.1 (List.mem_map.mpr ⟨entry, earlier, rfl⟩)).symm

/-- In another order the entries are as distinct as before. -/
theorem Distinct.perm {others : Entries α} (distinct : entries.Distinct)
    (same : entries.Perm others) : others.Distinct :=
  (same.map Prod.fst).nodup_iff.mp distinct

/-- In another order distinct entries have the same value under every key. -/
theorem get?_eq_of_perm {others : Entries α} (distinct : entries.Distinct)
    (same : entries.Perm others) (key : Text) : entries.get? key = others.get? key := by
  -- Either way a value is found under the key if there is an entry of the two.
  refine Option.ext fun value => ?_
  rw [get?_eq_some_iff distinct, get?_eq_some_iff (distinct.perm same), same.mem_iff]

/-- The keys after a value is set are those before, and that of the value. -/
theorem keys_put :
    (entries.put key value).map Prod.fst =
      if key ∈ entries.map Prod.fst then entries.map Prod.fst
      else entries.map Prod.fst ++ [key] := by
  induction entries with
  | nil => rfl
  | cons entry rest ih =>
    obtain ⟨other, old⟩ := entry
    unfold put
    -- The value goes where its key stands first.
    by_cases same : other = key
    · simp [same]
    · -- Past another key, both sides keep that key in front.
      have apart : ¬ key = other := fun equal => same equal.symm
      rw [if_neg same, List.map_cons, ih]
      split <;> simp [*]

/-- Setting a value leaves the entries distinct. -/
theorem Distinct.put (distinct : entries.Distinct) : (entries.put key value).Distinct := by
  rw [Distinct, keys_put]
  split
  · -- A known key stays where it is.
    exact distinct
  · rename_i absent
    -- A new key goes last, after keys that are all different from it.
    rw [List.nodup_append]
    refine ⟨distinct, by simp, ?_⟩
    intro other inside last only
    rw [List.mem_singleton.mp only]
    rintro rfl
    exact absent inside

/-- Entries put in one after another are distinct. -/
theorem distinct_ofPairs (pairs : List (Text × α)) : (ofPairs pairs).Distinct := by
  -- The fold starts from no entries, but its step is taken from any that are distinct.
  have general : ∀ (pairs : List (Text × α)) (entries : Entries α), entries.Distinct →
      (pairs.foldl (fun entries pair => put pair.1 pair.2 entries) entries).Distinct := by
    intro pairs
    induction pairs with
    | nil => exact fun entries distinct => distinct
    | cons pair rest ih => exact fun entries distinct => ih _ distinct.put
  exact general pairs [] List.nodup_nil

end Entries

end SolcRelease
