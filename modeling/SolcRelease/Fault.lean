import SolcRelease.Decimal.Natural
import SolcRelease.Json.Reader
import SolcRelease.Text.Quoted

/-! Faults: the failures that the service does not foresee. -/

namespace SolcRelease

/-- The place of a number in a version. -/
inductive VersionPart where
  /-- The first number. -/
  | major
  /-- The second number. -/
  | minor
  /-- The third number. -/
  | patch
  deriving DecidableEq, Repr

/-- The name of a place. -/
def VersionPart.name : VersionPart → Text
  | .major => "major"
  | .minor => "minor"
  | .patch => "patch"

/-- A failure that the service does not foresee. -/
inductive Fault where
  /-- A whole number has more digits than can be read or written. -/
  | tooManyDigits (excess : TooManyDigits)
  /-- A part of a version is given by something, shown here, that is no whole number. -/
  | partNotWhole (part : VersionPart) (shown : Text)
  /-- A part of a version is given by a number below zero, shown here. -/
  | partNegative (part : VersionPart) (shown : Text)
  /-- Something, shown here, is used as a range of versions and is none. -/
  | notARange (shown : Text)
  /-- A value of this kind is used as the document of a catalog, which is an object. -/
  | notACatalog (kind : Text)
  /-- A document has an enclosure that lies too deep in others. -/
  | documentTooDeep (enclosure : Json.Enclosure)
  /-- A setting holds a text that is no whole number. -/
  | notAWholeNumber (text : Text)
  /-- A document that is to be sent has an enclosure that lies too deep in others. -/
  | answerTooDeep
  /-- The logging level is given by the name of a text that describes log lines. -/
  | levelNamesLayout
  /-- The logging level is given by the name of the table of layouts. -/
  | levelNamesLayouts
  /-- Something outside the library says that it has no more to give: its kind and its wording. -/
  | exhausted (kind message : Text)
  /-- A coroutine ends in a failure that says that there is no more to be had. -/
  | exhaustedCoroutine
  /-- Any other failure of something outside the library: its kind and its wording. -/
  | foreign (kind message : Text)

/-- The wording of a fault. -/
def Fault.message : Fault → Text
  | .tooManyDigits excess => excess.message
  | .partNotWhole part shown => part.name ++ " must be an int, got " ++ shown
  | .partNegative part shown => part.name ++ " must be non-negative, got " ++ shown
  | .notARange shown => "Not a version range: " ++ shown
  | .notACatalog kind => "'" ++ kind ++ "' object has no attribute 'get'"
  | .documentTooDeep enclosure => (Json.ReadFailure.tooDeep enclosure).message
  | .notAWholeNumber text =>
    -- At most two hundred characters of the offending text are shown.
    "invalid literal for int() with base 10: " ++ text.quoted.take 200
  | .levelNamesLayout =>
    "Unknown level: '%(levelname)s:%(name)s:%(message)s'"
  | .levelNamesLayouts =>
    "Level not an integer or a valid string: "
      ++ "\x7b'%': (<class 'logging.PercentStyle'>, '%(levelname)s:%(name)s:%(message)s'), "
      ++ "'\x7b': (<class 'logging.StrFormatStyle'>, "
      ++ "'\x7blevelname\x7d:\x7bname\x7d:\x7bmessage\x7d'), "
      ++ "'$': (<class 'logging.StringTemplateStyle'>, "
      ++ "'$\x7blevelname\x7d:$\x7bname\x7d:$\x7bmessage\x7d')\x7d"
  | .answerTooDeep => "maximum recursion depth exceeded while encoding a JSON object"
  | .exhaustedCoroutine => "coroutine raised StopIteration"
  | .exhausted _ message | .foreign _ message => message

end SolcRelease
