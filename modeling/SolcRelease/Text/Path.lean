import SolcRelease.Text.Basic

/-! Paths of files, brought to the one form without detours. -/

namespace SolcRelease

namespace Path

/-- One more step along a path, whose steps so far come last first. -/
def step (taken : List Text) (segment : Text) : List Text :=
  if segment = [] ∨ segment = "." then taken
  else if segment = ".." then taken.tail
  else segment :: taken

/-- The slashes in front of a path: one, or two where there are exactly two. -/
def root (path : Text) : Text :=
  match path with
  | .char '/' :: .char '/' :: .char '/' :: _ => "/"
  | .char '/' :: .char '/' :: _ => "//"
  | _ => "/"

/-- A path from the root, without empty segments and dots. -/
def normalised (path : Text) : Text :=
  root path ++ Text.joined "/" ((path.splitOn '/').foldl step []).reverse

/-- The path from the root of a path that may start at a directory. -/
def absolute (directory path : Text) : Text :=
  match path with
  | .char '/' :: _ => normalised path
  | _ => normalised (directory ++ "/" ++ path)

end Path

end SolcRelease
