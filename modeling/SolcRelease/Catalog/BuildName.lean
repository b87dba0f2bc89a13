import SolcRelease.Text.Basic

/-!
Names of builds. A build may be named by a file `platform-identifier.suffix`, and the identifier
is what lies between the first dash and the last dot.
-/

namespace SolcRelease

namespace BuildName

/-- The text without one line feed at its very end. -/
def dropFinalLineFeed (text : Text) : Text :=
  match text.reverse with
  | .char '\n' :: rest => rest.reverse
  | _ => text

/-- What stands before a suffix: a dot and one or more letters that end the text. -/
def beforeSuffix? (text : Text) : Option Text :=
  match text.reverse.takeWhile CodePoint.isAlpha, text.reverse.dropWhile CodePoint.isAlpha with
  | _ :: _, .char '.' :: rest => some rest.reverse
  | _, _ => none

/-- The identifier in a file name, if it is one. -/
def identifier? (name : Text) : Option Text :=
  match name.upTo '-', name.fromFirst '-' with
  | _ :: _, _ :: rest =>
    -- The identifier is one line, and is not empty.
    (beforeSuffix? (dropFinalLineFeed rest)).filter fun identifier =>
      !identifier.isEmpty && !identifier.contains '\n'
  | _, _ => none

/-- The identifier of a build: the one in its file name, or else the name itself. -/
def identifier (name : Text) : Text :=
  (identifier? name).getD name

end BuildName

end SolcRelease
