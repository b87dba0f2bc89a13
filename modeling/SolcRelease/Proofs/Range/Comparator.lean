import SolcRelease.Proofs.Range.Membership
import SolcRelease.Proofs.Text.Parts
import SolcRelease.Proofs.Version.Text
import SolcRelease.Range.Basic

/-! Constraints on versions, and that the text of a range is one that its versions meet. -/

namespace SolcRelease

/-- How a version is compared with a bound. -/
inductive Relation where
  /-- It is the bound. -/
  | equal
  /-- It comes before the bound. -/
  | below
  /-- It comes before the bound or is the bound. -/
  | atMost
  /-- It comes after the bound or is the bound. -/
  | atLeast
  deriving DecidableEq, Repr

/-- The operator for a relation; the bound alone stands for equality. -/
def Relation.operator : Relation → Text
  | .equal => []
  | .below => "<"
  | .atMost => "<="
  | .atLeast => ">="

/-- A comparison of versions with a bound. -/
structure Comparator where
  /-- How they are compared. -/
  relation : Relation
  /-- The bound. -/
  bound : Version
  deriving DecidableEq, Repr

namespace Comparator

/-- The text of a comparator, however many digits the numbers of its bound have. -/
def written (comparator : Comparator) : Text :=
  comparator.relation.operator ++ comparator.bound.written

/-- The relation that an operator in front of a text stands for, and the text behind it. -/
def relationOf : Text → Relation × Text
  | .char '<' :: .char '=' :: rest => (.atMost, rest)
  | .char '>' :: .char '=' :: rest => (.atLeast, rest)
  | .char '<' :: rest => (.below, rest)
  | text => (.equal, text)

/-- The comparator that a text stands for: an operator or none, and then a version. -/
def read? (text : Text) : Option Comparator :=
  (Version.read (relationOf text).2).toOption.map fun bound => ⟨(relationOf text).1, bound⟩

/-- The comparators that a text stands for, with a space between any two. -/
def readAll? (text : Text) : Option (List Comparator) :=
  (text.splitOn ' ').mapM read?

section Reading

/-- A written version begins with a digit. -/
theorem exists_head_written (version : Version) :
    ∃ c rest, version.written = c :: rest ∧ c.isDigit = true := by
  -- It begins with the first digit of its major number.
  obtain ⟨c, digits, first⟩ := List.exists_cons_of_ne_nil (Decimal.digits_ne_nil version.major)
  refine ⟨c, digits ++ .char '.' :: Decimal.digits version.minor
    ++ .char '.' :: Decimal.digits version.patch, ?_, ?_⟩
  · rw [Version.written, first, List.cons_append, List.cons_append]
  · exact Decimal.digits_isRow version.major c (by rw [first]; exact List.mem_cons_self)

/-- The operator in front of a written version is told from the version. -/
theorem relationOf_operator (relation : Relation) (version : Version) :
    relationOf (relation.operator ++ version.written) = (relation, version.written) := by
  obtain ⟨c, rest, begins, digit⟩ := exists_head_written version
  -- No operator begins with a digit, nor goes on with one.
  have notLess : c ≠ .char '<' := by
    rintro rfl
    cases digit
  have notMore : c ≠ .char '>' := by
    rintro rfl
    cases digit
  have notEqual : c ≠ .char '=' := by
    rintro rfl
    cases digit
  rw [begins]
  cases relation with
  | equal => simp [Relation.operator, relationOf, notLess, notMore]
  | below => simp [Relation.operator, Text.ofString, Text.ofChars, relationOf, notEqual]
  | atMost => rfl
  | atLeast => rfl

/-- A comparator whose bound fits is read back from its text. -/
theorem read?_written {comparator : Comparator} (fits : comparator.bound.Fits) :
    read? comparator.written = some comparator := by
  -- The operator is told from the version, and the version is read back from its text.
  rw [read?, written, relationOf_operator, Version.read_written fits]
  rfl

/-- No space stands in the text of a comparator. -/
theorem space_not_mem_written (comparator : Comparator) : .char ' ' ∉ comparator.written := by
  rw [written, List.mem_append, not_or]
  refine ⟨?_, fun member => ?_⟩
  · -- No operator has a space.
    cases comparator.relation <;> decide
  · -- A version has digits and dots only.
    rcases Version.digit_or_dot_of_mem_written member with digit | dot
    · cases digit
    · cases dot

/-- Comparators whose bounds fit are read back from their texts with spaces between them. -/
theorem readAll?_joined {comparators : List Comparator} (nonempty : comparators ≠ [])
    (fit : ∀ comparator ∈ comparators, comparator.bound.Fits) :
    readAll? (Text.joined " " (comparators.map written)) = some comparators := by
  have space : (" " : Text) = [.char ' '] := rfl
  -- The only spaces are those between the texts.
  have parts : (Text.joined " " (comparators.map written)).splitOn ' '
      = comparators.map written := by
    rw [Text.joined, space]
    refine List.splitOn_intercalate _ ?_ (by simpa using nonempty)
    intro part member
    obtain ⟨comparator, -, rfl⟩ := List.mem_map.mp member
    exact space_not_mem_written comparator
  rw [readAll?, parts]
  clear parts nonempty
  induction comparators with
  | nil => rfl
  | cons comparator rest ih =>
    simp [read?_written (fit comparator (by simp)),
      ih fun other member => fit other (List.mem_cons_of_mem _ member)]

end Reading

end Comparator

namespace VersionRange

variable {range : VersionRange} {text : Text} {version : Version}

/-- The comparators that a range consists of. -/
def comparators : VersionRange → List Comparator
  | .exact version => [⟨.equal, version⟩]
  | .between lower upper => [⟨.atLeast, lower⟩, ⟨.atMost, upper⟩]
  | .below upper => [⟨.below, upper⟩]

/-- A range fits if the bounds of its comparators do. -/
def Fits (range : VersionRange) : Prop :=
  ∀ comparator ∈ range.comparators, comparator.bound.Fits

/-- A range between two bounds fits if both do. -/
theorem fits_between {lower upper : Version} :
    (between lower upper).Fits ↔ lower.Fits ∧ upper.Fits := by
  simp [Fits, comparators]

/-- The text of a range is that of its comparators, if it fits. -/
theorem text_eq_ok_iff :
    range.text = .ok text ↔
      range.Fits ∧ Text.joined " " (range.comparators.map Comparator.written) = text := by
  cases range with
  | exact version =>
    -- Equality has no operator, so the text is that of the version.
    simp [VersionRange.text, Version.text_eq_ok_iff, Fits, comparators, Comparator.written,
      Relation.operator, Text.joined]
  | between lower upper =>
    -- The constraint is written in one piece, with the space in front of the second operator.
    have joined : Text.joined " " ((between lower upper).comparators.map Comparator.written) =
        (">=" : Text) ++ lower.written ++ (" <=" : Text) ++ upper.written := by
      simp [comparators, Comparator.written, Relation.operator, Text.joined, Text.ofString,
        Text.ofChars, List.intercalate]
    simp only [joined, fits_between, VersionRange.text, Outcome.bind_eq_ok_iff,
      Version.text_eq_ok_iff, Except.ok.injEq]
    constructor
    · rintro ⟨_, ⟨low, first⟩, _, ⟨high, second⟩, same⟩
      rw [first, second]
      exact ⟨⟨low, high⟩, same⟩
    · rintro ⟨⟨low, high⟩, same⟩
      exact ⟨_, ⟨low, rfl⟩, _, ⟨high, rfl⟩, same⟩
  | below upper =>
    simp [VersionRange.text, Outcome.bind_eq_ok_iff, Version.text_eq_ok_iff, Fits, comparators,
      Comparator.written, Relation.operator, Text.joined, List.intercalate]

/-- A range that fits has a text. -/
theorem exists_text (fits : range.Fits) : ∃ text, range.text = .ok text :=
  ⟨_, text_eq_ok_iff.mpr ⟨fits, rfl⟩⟩

/-- The text of a range is read back as the comparators that the range consists of. -/
theorem readAll?_text (written : range.text = .ok text) :
    Comparator.readAll? text = some range.comparators := by
  obtain ⟨fits, rfl⟩ := text_eq_ok_iff.mp written
  -- Every range consists of at least one comparator.
  have nonempty : range.comparators ≠ [] := by
    cases range <;> exact List.cons_ne_nil _ _
  exact Comparator.readAll?_joined nonempty fits

end VersionRange

end SolcRelease
