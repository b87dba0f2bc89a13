import Mathlib.Data.List.DropRight
import SolcRelease.Text.Blank

/-! What is left of a text when the blanks around it are removed, and nothing else is. -/

namespace SolcRelease

namespace Text

/-- A core is a text without the characters of a class at either end. -/
structure IsCore (blank : CodePoint → Bool) (text core : Text) : Prop where
  /-- Only characters of the class are missing, and only around the core. -/
  around : ∃ before after : Text, text = before ++ core ++ after ∧
    (∀ c ∈ before, blank c) ∧ ∀ c ∈ after, blank c
  /-- The core begins with no character of the class. -/
  first : ∀ c ∈ core.head?, blank c = false
  /-- The core ends with no character of the class. -/
  last : ∀ c ∈ core.getLast?, blank c = false

variable {blank : CodePoint → Bool} {text core : Text}

/-- Stripping is dropping from the left and then from the right. -/
theorem stripBy_eq_rdropWhile (blank : CodePoint → Bool) (text : Text) :
    text.stripBy blank = (text.dropWhile blank).rdropWhile blank :=
  rfl

/-- What begins and ends with no blank is left as it is. -/
theorem stripBy_eq_self (first : ∀ c ∈ core.head?, blank c = false)
    (last : ∀ c ∈ core.getLast?, blank c = false) : core.stripBy blank = core := by
  rw [stripBy_eq_rdropWhile]
  -- Nothing is dropped from the left, and then nothing from the right.
  have left : core.dropWhile blank = core := by
    cases core with
    | nil => rfl
    | cons c rest =>
      have held : blank c = false := first c rfl
      simp [held]
  rw [left, List.rdropWhile_eq_self_iff]
  intro nonempty
  simp [last _ (List.getLast?_eq_some_getLast nonempty)]

/-- Blanks in front of a text are not in what is left of it. -/
theorem stripBy_append_left {before : Text} (blanks : ∀ c ∈ before, blank c) (text : Text) :
    (before ++ text).stripBy blank = text.stripBy blank := by
  -- They are all dropped before the text is reached.
  rw [stripBy_eq_rdropWhile, stripBy_eq_rdropWhile, List.dropWhile_append_of_pos blanks]

/-- Blanks behind a text are not in what is left of it. -/
theorem stripBy_append_right {after : Text} (blanks : ∀ c ∈ after, blank c) (text : Text) :
    (text ++ after).stripBy blank = text.stripBy blank := by
  simp only [stripBy, List.dropWhile_append]
  split
  · -- A text of blanks alone is dropped from the left together with what follows it.
    rename_i empty
    have dropped : text.dropWhile blank = [] := by simpa using empty
    have rest : after.dropWhile blank = [] := List.dropWhile_eq_nil_iff.mpr blanks
    rw [dropped, rest]
  · -- Otherwise something is left of the text, behind which the blanks stand.
    rw [List.reverse_append, List.dropWhile_append_of_pos (by simpa using blanks)]

/-- What stripping leaves is the one core that a text has. -/
theorem isCore_iff : IsCore blank text core ↔ core = text.stripBy blank := by
  constructor
  · rintro ⟨⟨before, after, rfl, blankBefore, blankAfter⟩, first, last⟩
    -- The blanks go from both ends, and the core between them holds.
    rw [stripBy_append_right blankAfter, stripBy_append_left blankBefore,
      stripBy_eq_self first last]
  · rintro rfl
    -- What was dropped at either end are the blanks around the core.
    refine ⟨⟨text.takeWhile blank, (text.dropWhile blank).rtakeWhile blank, ?_, ?_, ?_⟩, ?_, ?_⟩
    · rw [stripBy_eq_rdropWhile, List.append_assoc, List.rdropWhile_append_rtakeWhile,
        List.takeWhile_append_dropWhile]
    · exact fun c member => List.mem_takeWhile_imp member
    · exact fun c member => List.mem_rtakeWhile_imp member
    · -- What is left begins as the text does once it is dropped from the left.
      intro c found
      obtain ⟨rest, same⟩ := List.rdropWhile_prefix blank (l := text.dropWhile blank)
      rw [stripBy_eq_rdropWhile, Option.mem_def] at found
      have whole : (text.dropWhile blank).head? = some c := by
        rw [← same, List.head?_append, found, Option.some_or]
      simpa [whole] using List.head?_dropWhile_not blank text
    · -- The right end was dropped last, so no blank is left there.
      intro c found
      rw [stripBy_eq_rdropWhile] at found
      obtain ⟨nonempty, rfl⟩ := List.mem_getLast?_eq_getLast found
      simpa using List.rdropWhile_last_not blank _ nonempty

end Text

end SolcRelease
