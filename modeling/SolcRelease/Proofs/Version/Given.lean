import Mathlib.Algebra.Group.Int.Defs
import SolcRelease.Proofs.Json.Writable
import SolcRelease.Proofs.Version.Text
import SolcRelease.Version.Given

/-! What becomes of anything given as a version: a text by its grammar, or a value by its kind. -/

namespace SolcRelease

namespace Version

/-- A refusal of a text as a version, with the reason and the text as they were. -/
def Rejects (outcome : Except Failure Version) (text reason : Text) : Prop :=
  ∃ cause : Refusal, outcome = .error (.refusal cause) ∧ cause.code = "INVALID_VERSION" ∧
    cause.status = 400 ∧ cause.message = reason ++ ": " ++ text.quoted ∧
    cause.details = .json (.object [("version", .string text), ("reason", .string reason)])

/-- Reading reaches one of the first three parts if those on its left are numerals. -/
def IsReached (core part : Text) : Prop :=
  ∃ major minor patch before after, HasParts core major minor patch ∧
    [major, minor, patch] = before ++ part :: after ∧ ∀ other ∈ before, ∃ n, IsNumeral other n

/-- What becomes of a text whose core is known, in every case there is. -/
structure FollowsGrammar (text core : Text) (outcome : Except Failure Version) : Prop where
  /-- A version comes of three numerals, in front of any text after a third dot. -/
  accepted : ∀ version, outcome = .ok version ↔
    ∃ major minor patch, HasParts core major minor patch ∧ IsNumeral major version.major ∧
      IsNumeral minor version.minor ∧ IsNumeral patch version.patch
  /-- Fewer than two dots are too few. -/
  fewDots : core.count (.char '.') < 2 → Rejects outcome text "Expected major.minor.patch"
  /-- The first part that is no numeral is named if it is no row of digits. -/
  notRow : ∀ part, IsReached core part → ¬ (part ≠ [] ∧ part.IsRow) →
    Rejects outcome text ("Invalid version component " ++ part.quoted)
  /-- If it is a row of too many digits, that is no refusal of the text. -/
  tooLong : ∀ part, IsReached core part → part.IsRow → digitLimit < part.length →
    outcome = .error (.fault (.tooManyDigits (.reading part.length)))

section Texts

variable {text core part : Text} {version : Version} {flaw : VersionFlaw}

/-- A refused version is a refusal with the reason of its flaw. -/
theorem rejects_invalidVersion (text : Text) (flaw : VersionFlaw) :
    Rejects (.error (.refusal (.invalidVersion text flaw))) text flaw.reason :=
  ⟨_, rfl, rfl, rfl, rfl, rfl⟩

/-- A text is a version if it is read as one. -/
theorem ofText_eq_ok_iff : ofText text = .ok version ↔ read text = .ok version := by
  -- A failure to read stays a failure of one kind or the other.
  unfold ofText
  split
  all_goals simp [*]

/-- The version of a text has a text of its own, which is taken for that version again. -/
theorem exists_text_of_ofText (found : ofText text = .ok version) :
    ∃ again, version.text = .ok again ∧ ofText again = .ok version := by
  -- What was read is short enough to be written.
  have fits : version.Fits := fits_of_read (ofText_eq_ok_iff.mp found)
  exact ⟨version.written, text_eq_ok_iff.mpr ⟨fits, rfl⟩,
    ofText_eq_ok_iff.mpr (read_written fits)⟩

/-- A text that is malformed is refused as it was given, blanks included. -/
theorem rejects_ofText (bad : read text = .error (.malformed flaw)) :
    Rejects (ofText text) text flaw.reason := by
  rw [ofText, bad]
  exact rejects_invalidVersion text flaw

/-- A text that is malformed is refused by the flaw that was found in it. -/
theorem ofText_of_malformed (bad : read text = .error (.malformed flaw)) :
    ofText text = .error (.refusal (.invalidVersion text flaw)) := by
  rw [ofText, bad]

/-- A number that is too long is a fault, whatever the text is otherwise. -/
theorem ofText_of_long {excess : TooManyDigits}
    (long : read text = .error (.tooManyDigits excess)) :
    ofText text = .error (.fault (.tooManyDigits excess)) := by
  rw [ofText, long]
  rfl

/-- No text is a fault but one with a number that is too long. -/
theorem ofText_eq_tooManyDigits_iff {excess : TooManyDigits} :
    ofText text = .error (.fault (.tooManyDigits excess)) ↔
      read text = .error (.tooManyDigits excess) := by
  refine ⟨fun failed => ?_, ofText_of_long⟩
  unfold ofText at failed
  split at failed
  · cases failed
  · -- A malformed text is a refusal, and no fault.
    cases failed
  · cases failed
    assumption

/-- A text is a version, is refused, or has a number that is too long. -/
theorem ofText_cases (text : Text) :
    (∃ version, ofText text = .ok version) ∨
      (∃ flaw, ofText text = .error (.refusal (.invalidVersion text flaw))) ∨
      ∃ excess, ofText text = .error (.fault (.tooManyDigits excess)) := by
  unfold ofText
  split
  · exact Or.inl ⟨_, rfl⟩
  · exact Or.inr (Or.inl ⟨_, rfl⟩)
  · exact Or.inr (Or.inr ⟨_, rfl⟩)

/-- A text is refused for nothing but a flaw of its own. -/
theorem exists_flaw_of_ofText {cause : Refusal} (refused : ofText text = .error (.refusal cause)) :
    ∃ flaw, cause = .invalidVersion text flaw := by
  rcases ofText_cases text with ⟨version, same⟩ | ⟨flaw, same⟩ | ⟨excess, same⟩
  · cases refused.symm.trans same
  · cases refused.symm.trans same
    exact ⟨flaw, rfl⟩
  · cases refused.symm.trans same

/-- The part that reading reaches decides the failure if it cannot be read. -/
theorem read_of_isReached {failure : Unreadable} (reached : IsReached text.strip part)
    (bad : readPart part = .error failure) : read text = .error failure := by
  -- All that stands on its left is read, so it is the leftmost part that fails.
  obtain ⟨major, minor, patch, before, after, parts, place, numerals⟩ := reached
  exact read_of_leftmost parts place numerals bad

/-- A string is taken as the text it is. -/
theorem ofJson_string (text : Text) : ofJson (.string text) = ofText text :=
  rfl

/-- Every text follows the grammar. -/
theorem followsGrammar (isCore : Text.IsCore isBlank text core) :
    FollowsGrammar text core (ofText text) := by
  -- The one core of a text is what is left when it is stripped.
  obtain rfl : core = text.strip := Text.isCore_iff.mp isCore
  refine ⟨?_, ?_, ?_, ?_⟩
  · intro version
    -- Being a version is being read as one, which is having three numerals.
    rw [ofText_eq_ok_iff, read_eq_ok_iff]
  · intro few
    exact rejects_ofText (read_of_few_dots few)
  · intro part reached bad
    exact rejects_ofText (read_of_isReached reached (readPart_of_not_row bad))
  · intro part reached row long
    exact ofText_of_long (read_of_isReached reached (readPart_of_long row long))

end Texts

section Others

variable {given : Json}

/-- What is no string is shown in its refusal, if it can be shown. -/
theorem ofJson_of_not_string (other : ∀ text, given ≠ .string text) :
    ofJson given = (do
      let shown ← Failure.ofWriting given.shown
      .error (.refusal (.invalidVersion shown .notText))) := by
  unfold ofJson givenText
  split
  · rename_i text
    exact absurd rfl (other text)
  · -- No text comes of a value of any other kind, so reading a text plays no part.
    cases given.shown with
    | ok shown => rfl
    | error excess => rfl

/-- A value that can be shown is refused with what it is shown as. -/
theorem rejects_ofJson (other : ∀ text, given ≠ .string text) (short : given.isWritable = true) :
    ∃ shown, given.shown = .ok shown ∧
      Rejects (ofJson given) shown "Version must be a string" := by
  -- Either the value is shown, or one of its integers is too long for that.
  rcases Json.shown_cases given with ⟨-, shown, found⟩ | ⟨long, -⟩
  · refine ⟨shown, found, ?_⟩
    rw [ofJson_of_not_string other, found]
    exact rejects_invalidVersion shown .notText
  · rw [short] at long
    cases long

/-- A value with an integer that is too long to be shown is a fault instead of a refusal. -/
theorem ofJson_of_not_isWritable (other : ∀ text, given ≠ .string text)
    (long : given.isWritable = false) :
    ofJson given = .error (.fault (.tooManyDigits .writing)) := by
  rcases Json.shown_cases given with ⟨short, -⟩ | ⟨-, failed⟩
  · rw [long] at short
    cases short
  · rw [ofJson_of_not_string other, failed]
    rfl

end Others

/-- A string follows the grammar, and any other value that can be shown is refused by its kind. -/
theorem ofJson_outcome (given : Json) :
    (∀ text core, given = .string text → Text.IsCore isBlank text core →
      FollowsGrammar text core (ofJson given)) ∧
    ((∀ text, given ≠ .string text) → given.isWritable = true →
      ∃ shown, given.shown = .ok shown ∧
        Rejects (ofJson given) shown "Version must be a string") := by
  refine ⟨?_, rejects_ofJson⟩
  intro text core same isCore
  subst same
  -- What is given as a string is judged by its text alone.
  rw [ofJson_string]
  exact followsGrammar isCore

/-- A text with blanks around it and more behind a third dot is the version in front of that. -/
theorem ofJson_outcome_nightly :
    ofJson (.string "\t0.8.04.nightly\n") = .ok ⟨0, 8, 4⟩ := by
  have core : Text.IsCore isBlank "\t0.8.04.nightly\n" "0.8.04.nightly" :=
    Text.isCore_iff.mpr (by decide)
  -- The three parts are the version, and what follows the third dot is ignored.
  refine (((ofJson_outcome _).1 _ _ rfl core).accepted _).mpr ⟨"0", "8", "04", ?_, ?_, ?_, ?_⟩
  · exact ⟨by decide, by decide, by decide, Or.inr ⟨"nightly", by decide⟩⟩
  · exact ⟨by decide, List.all_eq_true.mp (by decide), by decide, by decide⟩
  · exact ⟨by decide, List.all_eq_true.mp (by decide), by decide, by decide⟩
  · exact ⟨by decide, List.all_eq_true.mp (by decide), by decide, by decide⟩

/--
A separator of ASCII is no Unicode white space, and yet one in front of a version is passed over;
and the least integer with one digit too many is no string, and yet it is not refused.
-/
theorem not_followsGrammar_separator :
    (Text.IsCore isNumeralBlank "\x1c1.2.3" "\x1c1.2.3" ∧
      ¬ FollowsGrammar "\x1c1.2.3" "\x1c1.2.3" (ofJson (.string "\x1c1.2.3"))) ∧
    ¬ ∃ shown reason, Rejects (ofJson (.whole (10 ^ digitLimit))) shown reason := by
  refine ⟨⟨Text.isCore_iff.mpr (by decide), ?_⟩, ?_⟩
  · intro follows
    -- The separator would be part of the major number, which is no row of digits then.
    have reached : IsReached "\x1c1.2.3" "\x1c1" :=
      ⟨"\x1c1", "2", "3", [], ["2", "3"],
        ⟨by decide, by decide, by decide, Or.inl (by decide)⟩, rfl, by simp⟩
    have bad : ¬ (("\x1c1" : Text) ≠ [] ∧ Text.IsRow "\x1c1") := fun ⟨_, row⟩ =>
      absurd (row (.char '\x1c') (by decide)) (by decide)
    obtain ⟨cause, refused, -⟩ := follows.notRow _ reached bad
    have accepted : read "\x1c1.2.3" = .ok ⟨1, 2, 3⟩ := by decide
    rw [ofJson_string, ofText_eq_ok_iff.mpr accepted] at refused
    cases refused
  · -- Its digits are one more than the limit, so it cannot be shown in a refusal.
    have ten : Int.natAbs 10 = 10 := rfl
    have long : (Json.whole (10 ^ digitLimit)).isWritable = false := by
      rw [Json.isWritable, Int.natAbs_pow, ten, decide_eq_false_iff_not,
        Decimal.length_digits_le_iff (by decide)]
      exact Nat.lt_irrefl _
    intro ⟨shown, reason, cause, refused, _⟩
    rw [ofJson_of_not_isWritable (fun text => Json.noConfusion) long] at refused
    cases refused

end Version

end SolcRelease
