import SolcRelease.Proofs.Decimal.Natural
import SolcRelease.Proofs.Outcome
import SolcRelease.Proofs.Text.Blank
import SolcRelease.Proofs.Text.Parts
import SolcRelease.Version.Text

/-! The texts that are read as versions, the failures of the others, and reading after writing. -/

namespace SolcRelease

namespace Version

/-- A part is one or more plain digits, not too many, that stand for a number. -/
structure IsNumeral (part : Text) (n : Nat) : Prop where
  /-- There is at least one character. -/
  nonempty : part ≠ []
  /-- Every character is a digit. -/
  row : part.IsRow
  /-- There are no more of them than the limit allows. -/
  short : part.length ≤ digitLimit
  /-- Together they stand for the number. -/
  value : Decimal.value part = n

/-- Three parts without dots begin a text; what follows a third dot may be any text. -/
structure HasParts (core major minor patch : Text) : Prop where
  /-- No dot stands in the first part. -/
  majorPlain : .char '.' ∉ major
  /-- No dot stands in the second part. -/
  minorPlain : .char '.' ∉ minor
  /-- No dot stands in the third part. -/
  patchPlain : .char '.' ∉ patch
  /-- Dots separate the parts from each other, and from the rest if there is one. -/
  shape : core = major ++ .char '.' :: minor ++ .char '.' :: patch ∨
    ∃ rest, core = major ++ .char '.' :: minor ++ .char '.' :: patch ++ .char '.' :: rest

/-- A version fits if each of its numbers has few enough digits to be written. -/
def Fits (version : Version) : Prop :=
  ∀ n ∈ version.parts, (Decimal.digits n).length ≤ digitLimit

variable {text core major minor patch part : Text} {version : Version}

section Parts

/-- The first three parts are those that cutting at the dots gives first. -/
theorem hasParts_iff :
    HasParts core major minor patch ↔
      ∃ rest, core.splitOn '.' = major :: minor :: patch :: rest := by
  constructor
  · rintro ⟨majorPlain, minorPlain, patchPlain, rfl | ⟨rest, rfl⟩⟩
    · -- The third part ends the text, and no other part follows.
      refine ⟨[], ?_⟩
      rw [List.append_assoc, List.cons_append, Text.splitOn_append_mark majorPlain,
        Text.splitOn_append_mark minorPlain, Text.splitOn_of_not_mem patchPlain]
    · -- A third dot ends the third part, and the rest is cut on its own.
      refine ⟨Text.splitOn rest '.', ?_⟩
      simp only [List.append_assoc, List.cons_append]
      rw [Text.splitOn_append_mark majorPlain, Text.splitOn_append_mark minorPlain,
        Text.splitOn_append_mark patchPlain]
  · intro ⟨rest, parts⟩
    -- Each part ends at the next dot, and only the third may end the text.
    obtain ⟨majorPlain, ⟨-, none⟩ | ⟨afterMajor, rfl, second⟩⟩ :=
      Text.splitOn_eq_cons_iff.mp parts
    · cases none
    obtain ⟨minorPlain, ⟨-, none⟩ | ⟨afterMinor, rfl, third⟩⟩ :=
      Text.splitOn_eq_cons_iff.mp second
    · cases none
    obtain ⟨patchPlain, ⟨rfl, -⟩ | ⟨afterPatch, rfl, -⟩⟩ :=
      Text.splitOn_eq_cons_iff.mp third
    · exact ⟨majorPlain, minorPlain, patchPlain, Or.inl (by simp)⟩
    · exact ⟨majorPlain, minorPlain, patchPlain, Or.inr ⟨afterPatch, by simp⟩⟩

/-- A text has three parts unless it has fewer than two dots. -/
theorem exists_hasParts (dots : 2 ≤ core.count (.char '.')) :
    ∃ major minor patch, HasParts core major minor patch := by
  have count := Text.length_splitOn '.' core
  -- Two dots leave at least three parts.
  match parts : core.splitOn '.' with
  | major :: minor :: patch :: rest =>
    exact ⟨major, minor, patch, hasParts_iff.mpr ⟨rest, parts⟩⟩
  | [] | [_] | [_, _] =>
    rw [parts] at count
    simp only [List.length_cons, List.length_nil] at count
    omega

/-- A part is read if and only if it is a numeral. -/
theorem readPart_eq_ok_iff {n : Nat} : readPart part = .ok n ↔ IsNumeral part n := by
  unfold readPart Decimal.read
  constructor
  · intro found
    split at found
    · cases found
    · -- Past the check the part is a row of digits, and the limit is what is left to tell.
      rename_i good
      simp only [Bool.or_eq_true, List.isEmpty_iff, Bool.not_eq_true', not_or,
        Bool.not_eq_false, List.all_eq_true] at good
      by_cases short : part.length ≤ digitLimit
      · simp only [short, if_true, Except.ok.injEq] at found
        exact ⟨good.1, good.2, short, found⟩
      · simp [short] at found
  · rintro ⟨nonempty, row, short, rfl⟩
    have digits : part.all CodePoint.isDigit = true := List.all_eq_true.mpr row
    simp [nonempty, digits, short]

/-- A part that is no row of digits is refused by name. -/
theorem readPart_of_not_row (bad : ¬ (part ≠ [] ∧ part.IsRow)) :
    readPart part = .error (.malformed (.badPart part)) := by
  unfold readPart
  -- The check for a row comes before any reading, so the part is refused by it.
  rw [if_pos]
  rw [Bool.or_eq_true, List.isEmpty_iff, Bool.not_eq_true', ← Bool.not_eq_true, List.all_eq_true]
  exact or_iff_not_imp_left.mpr fun nonempty row => bad ⟨nonempty, row⟩

/-- A row of too many digits is no flaw of the text, but too much to read. -/
theorem readPart_of_long (row : part.IsRow) (long : digitLimit < part.length) :
    readPart part = .error (.tooManyDigits (.reading part.length)) := by
  have nonempty : part ≠ [] := by
    intro empty
    simp [empty] at long
  have digits : part.all CodePoint.isDigit = true := List.all_eq_true.mpr row
  simp [readPart, Decimal.read, nonempty, digits, Nat.not_le.mpr long]

end Parts

section Reading

/-- Reading a text reads its first three parts from left to right. -/
theorem read_of_hasParts (parts : HasParts text.strip major minor patch) :
    read text = (do
      let major ← readPart major
      let minor ← readPart minor
      let patch ← readPart patch
      .ok ⟨major, minor, patch⟩) := by
  -- The parts are those that the text is cut into, and the others are not looked at.
  obtain ⟨rest, split⟩ := hasParts_iff.mp parts
  simp [read, split]

/-- A text with fewer than two dots lacks a part. -/
theorem read_of_few_dots (few : text.strip.count (.char '.') < 2) :
    read text = .error (.malformed .missingParts) := by
  have count := Text.length_splitOn '.' text.strip
  unfold read
  split
  · -- Three parts would take two dots.
    rename_i parts
    rw [parts] at count
    simp only [List.length_cons] at count
    omega
  · rfl

/-- The versions that texts are read as are those that their first three parts stand for. -/
theorem read_eq_ok_iff :
    read text = .ok version ↔ ∃ major minor patch, HasParts text.strip major minor patch ∧
      IsNumeral major version.major ∧ IsNumeral minor version.minor ∧
      IsNumeral patch version.patch := by
  constructor
  · intro found
    by_cases few : text.strip.count (.char '.') < 2
    · rw [read_of_few_dots few] at found
      cases found
    obtain ⟨major, minor, patch, parts⟩ := exists_hasParts (Nat.not_lt.mp few)
    -- Each of the three parts must have been read on the way.
    simp only [read_of_hasParts parts, Outcome.bind_eq_ok_iff, readPart_eq_ok_iff,
      Except.ok.injEq] at found
    obtain ⟨a, first, b, second, c, third, rfl⟩ := found
    exact ⟨major, minor, patch, parts, first, second, third⟩
  · intro ⟨major, minor, patch, parts, first, second, third⟩
    rw [read_of_hasParts parts, readPart_eq_ok_iff.mpr first, readPart_eq_ok_iff.mpr second,
      readPart_eq_ok_iff.mpr third]
    rfl

/-- The leftmost part that cannot be read decides the failure. -/
theorem read_of_leftmost {before after : List Text} {failure : Unreadable}
    (parts : HasParts text.strip major minor patch)
    (place : [major, minor, patch] = before ++ part :: after)
    (numerals : ∀ other ∈ before, ∃ n, IsNumeral other n)
    (bad : readPart part = .error failure) : read text = .error failure := by
  rw [read_of_hasParts parts]
  -- The bad part is one of the three, and those on its left are read.
  match before, place, numerals with
  | [], place, _ =>
    simp only [List.nil_append, List.cons.injEq] at place
    obtain ⟨rfl, -⟩ := place
    rw [bad]
    rfl
  | [first], place, numerals =>
    simp only [List.cons_append, List.nil_append, List.cons.injEq] at place
    obtain ⟨rfl, rfl, -⟩ := place
    obtain ⟨a, isA⟩ := numerals major (by simp)
    rw [readPart_eq_ok_iff.mpr isA, bad]
    rfl
  | [first, second], place, numerals =>
    simp only [List.cons_append, List.nil_append, List.cons.injEq] at place
    obtain ⟨rfl, rfl, rfl, -⟩ := place
    obtain ⟨a, isA⟩ := numerals major (by simp)
    obtain ⟨b, isB⟩ := numerals minor (by simp)
    rw [readPart_eq_ok_iff.mpr isA, readPart_eq_ok_iff.mpr isB, bad]
    rfl
  | _ :: _ :: _ :: _, place, _ => simp at place

end Reading

section Writing

/-- The text of a version, however many digits its numbers have. -/
def written (version : Version) : Text :=
  Decimal.digits version.major ++ .char '.' :: Decimal.digits version.minor
    ++ .char '.' :: Decimal.digits version.patch

/-- A version fits if each of its three numbers does. -/
theorem fits_iff :
    version.Fits ↔ (Decimal.digits version.major).length ≤ digitLimit ∧
      (Decimal.digits version.minor).length ≤ digitLimit ∧
      (Decimal.digits version.patch).length ≤ digitLimit := by
  simp [Fits, parts]

/-- Dots stand between the three numbers of a version. -/
theorem joined_digits (version : Version) :
    Text.joined "." [Decimal.digits version.major, Decimal.digits version.minor,
      Decimal.digits version.patch] = version.written := by
  simp [Text.joined, Text.ofString, Text.ofChars, written, List.intercalate]

/-- A version is written if it fits, and then as its three numbers between dots. -/
theorem text_eq_ok_iff : version.text = .ok text ↔ version.Fits ∧ version.written = text := by
  simp only [Version.text, Outcome.bind_eq_ok_iff, Decimal.write_eq_ok_iff, fits_iff,
    Except.ok.injEq]
  -- Each number is written on its own, and the limit holds for each of them.
  constructor
  · rintro ⟨_, ⟨major, rfl⟩, _, ⟨minor, rfl⟩, _, ⟨patch, rfl⟩, rfl⟩
    exact ⟨⟨major, minor, patch⟩, (joined_digits version).symm⟩
  · rintro ⟨⟨major, minor, patch⟩, rfl⟩
    exact ⟨_, ⟨major, rfl⟩, _, ⟨minor, rfl⟩, _, ⟨patch, rfl⟩, joined_digits version⟩

/-- What a version is written with: digits and dots. -/
theorem digit_or_dot_of_mem_written {c : CodePoint} (member : c ∈ version.written) :
    c.isDigit ∨ c = .char '.' := by
  simp only [written, List.mem_append, List.mem_cons] at member
  -- From left to right, the three numbers and the two dots between them.
  rcases member with (major | dot | minor) | dot | patch
  · exact Or.inl (Decimal.digits_isRow _ c major)
  · exact Or.inr dot
  · exact Or.inl (Decimal.digits_isRow _ c minor)
  · exact Or.inr dot
  · exact Or.inl (Decimal.digits_isRow _ c patch)

/-- A written version has no blanks around it. -/
theorem strip_written (version : Version) : version.written.strip = version.written := by
  -- Digits and dots are no blanks, so neither end is one.
  have plain : ∀ c ∈ version.written, isBlank c = false := by
    intro c member
    rcases digit_or_dot_of_mem_written member with digit | rfl
    · exact CodePoint.isBlank_eq_false_of_isDigit digit
    · rfl
  exact Text.stripBy_eq_self (fun c found => plain c (List.mem_of_mem_head? found))
    (fun c found => plain c (List.mem_of_mem_getLast? found))

/-- The parts of a written version are the digits of its numbers. -/
theorem hasParts_written (version : Version) :
    HasParts version.written (Decimal.digits version.major) (Decimal.digits version.minor)
      (Decimal.digits version.patch) := by
  -- The only dots are those between the numbers, since a dot is no digit.
  have plain (n : Nat) : .char '.' ∉ Decimal.digits n := fun member =>
    absurd (Decimal.digits_isRow n _ member) (by decide)
  exact ⟨plain _, plain _, plain _, Or.inl rfl⟩

/-- The digits of a number are a numeral for it, if they are not too many. -/
theorem isNumeral_digits {n : Nat} (short : (Decimal.digits n).length ≤ digitLimit) :
    IsNumeral (Decimal.digits n) n :=
  ⟨Decimal.digits_ne_nil n, Decimal.digits_isRow n, short, Decimal.value_digits n⟩

/-- A version that fits is read back from its text. -/
theorem read_written (fits : version.Fits) : read version.written = .ok version := by
  rw [read_eq_ok_iff, strip_written]
  -- Its three parts are the digits of its numbers, each short enough for a numeral.
  obtain ⟨major, minor, patch⟩ := fits_iff.mp fits
  exact ⟨_, _, _, hasParts_written version, isNumeral_digits major, isNumeral_digits minor,
    isNumeral_digits patch⟩

/-- A version that was read fits, since what is read is held to the same limit. -/
theorem fits_of_read (found : read text = .ok version) : version.Fits := by
  obtain ⟨major, minor, patch, -, first, second, third⟩ := read_eq_ok_iff.mp found
  -- A number has no more digits than the numeral that it was read from.
  have short {part : Text} {n : Nat} (numeral : IsNumeral part n) :
      (Decimal.digits n).length ≤ digitLimit := by
    rw [← numeral.value]
    exact (Decimal.length_digits_value_le numeral.nonempty numeral.row).trans numeral.short
  exact fits_iff.mpr ⟨short first, short second, short third⟩

end Writing

end Version

end SolcRelease
