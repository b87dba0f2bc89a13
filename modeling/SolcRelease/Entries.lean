import SolcRelease.Text.Basic

/-! Entries in the order in which their keys first came, one value to a key. -/

namespace SolcRelease

/-- Values under text keys, in order. -/
abbrev Entries (α : Type) := List (Text × α)

namespace Entries

variable {α : Type}

/-- The value under a key. -/
def get? (entries : Entries α) (key : Text) : Option α :=
  List.lookup key entries

/-- Sets the value under a key, which keeps its place if it has one and goes last otherwise. -/
def put (key : Text) (value : α) : Entries α → Entries α
  | [] => [(key, value)]
  | (other, old) :: rest =>
    if other = key then (key, value) :: rest else (other, old) :: put key value rest

/-- Entries put in one after another, so that of two with one key the later value stays. -/
def ofPairs (pairs : List (Text × α)) : Entries α :=
  pairs.foldl (fun entries (key, value) => entries.put key value) []

/-- Takes a key out, if it is there. -/
def erase (key : Text) (entries : Entries α) : Entries α :=
  entries.filter (·.1 != key)

end Entries

end SolcRelease
