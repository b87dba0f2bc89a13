import SolcRelease.Text.Basic

/-! Versions of the compiler and their order. -/

namespace SolcRelease

/-- A version: three numbers, of which the earlier weigh more. -/
structure Version where
  /-- The number before the first dot. -/
  major : Nat
  /-- The number between the dots. -/
  minor : Nat
  /-- The number after the second dot. -/
  patch : Nat
  deriving DecidableEq, Repr

namespace Version

/-- The three numbers in order. -/
def parts (version : Version) : List Nat :=
  [version.major, version.minor, version.patch]

/-- One version precedes another if it is smaller at the first number in which they differ. -/
protected def lt (a b : Version) : Prop :=
  a.major < b.major ∨ a.major = b.major ∧
    (a.minor < b.minor ∨ a.minor = b.minor ∧ a.patch < b.patch)

instance : LT Version := ⟨Version.lt⟩

/-- A version is at most another if it precedes or equals it. -/
protected def le (a b : Version) : Prop :=
  a < b ∨ a = b

instance : LE Version := ⟨Version.le⟩

instance decidableLt (a b : Version) : Decidable (a < b) :=
  inferInstanceAs (Decidable (a.major < b.major ∨ a.major = b.major ∧
    (a.minor < b.minor ∨ a.minor = b.minor ∧ a.patch < b.patch)))

instance decidableLe (a b : Version) : Decidable (a ≤ b) :=
  inferInstanceAs (Decidable (a < b ∨ a = b))

/-- The versions of a list in ascending order. -/
def sorted (versions : List Version) : List Version :=
  versions.mergeSort fun a b => decide (a ≤ b)

/-- The versions of a list, each once. -/
def distinct (versions : List Version) : List Version :=
  versions.eraseDups

/-- The least version of a list. -/
def least? : List Version → Option Version
  | [] => none
  | version :: rest => some (rest.foldl (fun least v => if v < least then v else least) version)

/-- The greatest version of a list. -/
def greatest? : List Version → Option Version
  | [] => none
  | version :: rest => some (rest.foldl (fun most v => if most < v then v else most) version)

end Version

end SolcRelease
