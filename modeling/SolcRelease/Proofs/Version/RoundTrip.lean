import SolcRelease.Proofs.Version.Given

/-! Writing and reading undo each other, and the texts that survive both are the canonical ones. -/

namespace SolcRelease

namespace Version

/-- A text is canonical if it is three plain rows of digits with dots between them, and no more. -/
def IsCanonical (text : Text) : Prop :=
  ∃ major minor patch : Text, text = major ++ .char '.' :: minor ++ .char '.' :: patch ∧
    Decimal.IsPlain major ∧ Decimal.IsPlain minor ∧ Decimal.IsPlain patch

variable {text core major minor patch : Text} {version other : Version}

section Failing

/-- A number is too long to be written if it has more digits than the limit allows. -/
theorem write_of_long {n : Nat} (long : digitLimit < (Decimal.digits n).length) :
    Decimal.write n = .error .writing := by
  rw [Decimal.write, if_neg (Nat.not_le.mpr long)]

/-- A version is written, or the writing of one of its numbers fails. -/
theorem text_cases (version : Version) :
    version.text = .ok version.written ∨ version.text = .error .writing := by
  by_cases fits : version.Fits
  · exact Or.inl (text_eq_ok_iff.mpr ⟨fits, rfl⟩)
  · -- The first number that is too long ends the writing, and the others before it are written.
    rw [fits_iff] at fits
    right
    unfold Version.text
    by_cases major : (Decimal.digits version.major).length ≤ digitLimit
    · rw [Decimal.write_eq_ok_iff.mpr ⟨major, rfl⟩, Outcome.ok_bind]
      by_cases minor : (Decimal.digits version.minor).length ≤ digitLimit
      · have patch : ¬ (Decimal.digits version.patch).length ≤ digitLimit :=
          fun short => fits ⟨major, minor, short⟩
        rw [Decimal.write_eq_ok_iff.mpr ⟨minor, rfl⟩, Outcome.ok_bind,
          write_of_long (Nat.not_le.mp patch), Outcome.error_bind]
      · rw [write_of_long (Nat.not_le.mp minor), Outcome.error_bind]
    · rw [write_of_long (Nat.not_le.mp major), Outcome.error_bind]

/-- Writing a version fails if one of its numbers has more digits than the limit allows. -/
theorem text_eq_error_iff {excess : TooManyDigits} :
    version.text = .error excess ↔
      excess = .writing ∧ ∃ n ∈ version.parts, digitLimit < (Decimal.digits n).length := by
  have unfit : ¬ version.Fits ↔ ∃ n ∈ version.parts, digitLimit < (Decimal.digits n).length := by
    simp [Fits]
  rw [← unfit]
  constructor
  · intro failed
    -- A version that fits would have been written.
    have long : ¬ version.Fits := by
      intro fits
      rw [text_eq_ok_iff.mpr ⟨fits, rfl⟩] at failed
      cases failed
    rcases text_cases version with written | same
    · exact absurd (text_eq_ok_iff.mp written).1 long
    · rw [same, Except.error.injEq] at failed
      exact ⟨failed.symm, long⟩
  · rintro ⟨rfl, long⟩
    rcases text_cases version with written | failed
    · exact absurd (text_eq_ok_iff.mp written).1 long
    · exact failed

end Failing

section Canonical

/-- A text has its three parts in one way only. -/
theorem HasParts.unique {first second third : Text} (parts : HasParts core major minor patch)
    (others : HasParts core first second third) :
    major = first ∧ minor = second ∧ patch = third := by
  obtain ⟨rest, split⟩ := hasParts_iff.mp parts
  obtain ⟨more, again⟩ := hasParts_iff.mp others
  -- Both are what the text is cut into at its dots.
  rw [split] at again
  simp only [List.cons.injEq] at again
  exact ⟨again.1, again.2.1, again.2.2.1⟩

/-- What a written version is read as is that version. -/
theorem eq_of_read_written (found : read other.written = .ok version) : other = version := by
  obtain ⟨major, minor, patch, parts, first, second, third⟩ := read_eq_ok_iff.mp found
  rw [strip_written] at parts
  obtain ⟨rfl, rfl, rfl⟩ := (hasParts_written other).unique parts
  -- Each part is the digits of one of its numbers, which they stand for.
  have major := first.value
  have minor := second.value
  have patch := third.value
  rw [Decimal.value_digits] at major minor patch
  cases other
  cases version
  simp_all

/-- A written version is canonical. -/
theorem isCanonical_written (version : Version) : IsCanonical version.written :=
  ⟨_, _, _, rfl, Decimal.isPlain_digits _, Decimal.isPlain_digits _, Decimal.isPlain_digits _⟩

/-- A canonical text is how some version is written. -/
theorem exists_written_of_isCanonical (canonical : IsCanonical text) :
    ∃ version : Version, version.written = text := by
  obtain ⟨major, minor, patch, rfl, first, second, third⟩ := canonical
  -- Its numbers are those that the three rows stand for.
  refine ⟨⟨Decimal.value major, Decimal.value minor, Decimal.value patch⟩, ?_⟩
  rw [written, Decimal.digits_value first, Decimal.digits_value second, Decimal.digits_value third]

/-- A version that was read is written as the same text if and only if that text is canonical. -/
theorem written_eq_iff_isCanonical (found : read text = .ok version) :
    version.written = text ↔ IsCanonical text := by
  constructor
  · rintro rfl
    exact isCanonical_written version
  · intro canonical
    -- Whatever version the text was written for, that is the one it was read as.
    obtain ⟨other, rfl⟩ := exists_written_of_isCanonical canonical
    rw [eq_of_read_written found]

/-- Versions with the same text are the same. -/
theorem text_injective (first : version.text = .ok text) (second : other.text = .ok text) :
    version = other := by
  obtain ⟨fits, rfl⟩ := text_eq_ok_iff.mp first
  obtain ⟨-, same⟩ := text_eq_ok_iff.mp second
  have found := read_written fits
  rw [← same] at found
  exact (eq_of_read_written found).symm

end Canonical

/--
Versions have texts if their numbers are short enough, and are read back from them; what was read
is written back, as the same text if that is canonical; and different versions never share a text.
-/
theorem text_roundTrip :
    (∀ version : Version,
      (version.text = .error .writing ↔
        ∃ n ∈ version.parts, digitLimit < (Decimal.digits n).length) ∧
      ((∀ n ∈ version.parts, (Decimal.digits n).length ≤ digitLimit) →
        ∃ text, version.text = .ok text ∧ ofText text = .ok version)) ∧
    (∀ (text : Text) (version : Version), ofText text = .ok version →
      ∃ again, version.text = .ok again ∧ ofText again = .ok version ∧
        (again = text ↔ IsCanonical text)) ∧
    ∀ (a b : Version) (text : Text), a.text = .ok text → b.text = .ok text → a = b := by
  refine ⟨fun version => ⟨?_, ?_⟩, ?_, ?_⟩
  · rw [text_eq_error_iff, eq_self, true_and]
  · intro fits
    exact ⟨version.written, text_eq_ok_iff.mpr ⟨fits, rfl⟩,
      ofText_eq_ok_iff.mpr (read_written fits)⟩
  · intro text version found
    have read := ofText_eq_ok_iff.mp found
    -- What was read is short enough to be written.
    have fits : version.Fits := fits_of_read read
    exact ⟨version.written, text_eq_ok_iff.mpr ⟨fits, rfl⟩,
      ofText_eq_ok_iff.mpr (read_written fits), written_eq_iff_isCanonical read⟩
  · intro a b text first second
    exact text_injective first second

/-- A superfluous zero is read and not written again. -/
theorem text_roundTrip_padded :
    ∃ again, (⟨0, 4, 7⟩ : Version).text = .ok again ∧ ofText again = .ok ⟨0, 4, 7⟩ ∧
      again ≠ "0.04.7" := by
  have found : ofText "0.04.7" = .ok ⟨0, 4, 7⟩ := ofText_eq_ok_iff.mpr (by decide)
  obtain ⟨again, written, read, -⟩ := text_roundTrip.2.1 "0.04.7" ⟨0, 4, 7⟩ found
  refine ⟨again, written, read, ?_⟩
  -- The text that is written is the one without the zero.
  have short : Version.read "0.4.7" = .ok ⟨0, 4, 7⟩ := by decide
  have plain : (⟨0, 4, 7⟩ : Version).text = .ok "0.4.7" :=
    text_eq_ok_iff.mpr ⟨fits_of_read short, by decide⟩
  rw [plain, Except.ok.injEq] at written
  rw [← written]
  decide

end Version

end SolcRelease
