import Mathlib.Data.List.TakeWhile
import SolcRelease.Text.Basic

/-!
Texts cut at a mark, at every place of it, at the first or at the last: the parts hold no mark, and
joined again they give the text.
-/

namespace SolcRelease

namespace Text

variable {mark : CodePoint} {text part : Text} {rest : List Text}

section EveryPlace

/-- A text without the mark is its own only part. -/
theorem splitOn_of_not_mem (absent : mark ∉ text) : text.splitOn mark = [text] :=
  List.splitOn_eq_singleton absent

/-- What stands before the first mark is the first part. -/
theorem splitOn_append_mark (absent : mark ∉ part) (tail : Text) :
    (part ++ mark :: tail : Text).splitOn mark = part :: tail.splitOn mark :=
  List.splitOn_append_cons_self_of_not_mem absent tail

/-- The first part goes up to the first mark, and the other parts are those of what follows it. -/
theorem splitOn_eq_cons_iff :
    text.splitOn mark = part :: rest ↔
      mark ∉ part ∧ (text = part ∧ rest = [] ∨
        ∃ tail, text = part ++ mark :: tail ∧ tail.splitOn mark = rest) := by
  constructor
  · intro parts
    by_cases marked : mark ∈ text
    · -- The text is cut where the mark stands first.
      obtain ⟨before, tail, rfl, absent⟩ := List.eq_append_cons_of_mem marked
      rw [splitOn_append_mark absent, List.cons.injEq] at parts
      obtain ⟨rfl, rfl⟩ := parts
      exact ⟨absent, Or.inr ⟨tail, rfl, rfl⟩⟩
    · -- Without a mark the text is its own only part.
      rw [splitOn_of_not_mem marked, List.cons.injEq] at parts
      obtain ⟨rfl, rfl⟩ := parts
      exact ⟨marked, Or.inl ⟨rfl, rfl⟩⟩
  · rintro ⟨absent, ⟨rfl, rfl⟩ | ⟨tail, rfl, rfl⟩⟩
    · exact splitOn_of_not_mem absent
    · exact splitOn_append_mark absent tail

/-- There is one part more than there are marks. -/
theorem length_splitOn (mark : CodePoint) (text : Text) :
    (text.splitOn mark).length = text.count mark + 1 := by
  induction text with
  | nil => rfl
  | cons c rest ih =>
    rw [splitOn, List.splitOn_cons_eq_if_modifyHead, List.count_cons]
    split
    · -- A mark begins a new part.
      rw [List.length_cons, ih]
    · -- Any other character goes to the first part there is.
      rw [List.length_modifyHead, ih, Nat.add_zero]

end EveryPlace

/-- A part goes up to the first place of a mark in a text. -/
def IsUpToFirst (mark : CodePoint) (part text : Text) : Prop :=
  mark ∉ part ∧ ∃ behind, text = part ++ mark :: behind

/-- A part goes up to the last place of a mark in a text. -/
def IsUpToLast (mark : CodePoint) (part text : Text) : Prop :=
  ∃ behind, mark ∉ behind ∧ text = part ++ mark :: behind

section FirstPlace

/-- Every code point of a part without the mark differs from it. -/
theorem bne_mark_of_mem (absent : mark ∉ part) : ∀ c ∈ part, (c != mark) = true := by
  intro c member
  exact bne_iff_ne.mpr fun same => absent (same ▸ member)

/-- All of a text without the mark stands before it. -/
theorem upTo_of_not_mem (absent : mark ∉ text) : text.upTo mark = text :=
  List.takeWhile_eq_self_iff.mpr (bne_mark_of_mem absent)

/-- A text begins with the part that stands before its first mark. -/
theorem upTo_append_mark (absent : mark ∉ part) (tail : Text) :
    (part ++ mark :: tail : Text).upTo mark = part := by
  -- The whole part is taken, and nothing of what begins with the mark.
  rw [upTo, List.takeWhile_append_of_pos (bne_mark_of_mem absent),
    List.takeWhile_cons_of_neg (by simp), List.append_nil]

/-- Behind that part, a text goes on from the mark. -/
theorem fromFirst_append_mark (absent : mark ∉ part) (tail : Text) :
    (part ++ mark :: tail : Text).fromFirst mark = mark :: tail := by
  -- The whole part is passed over, and the mark is not.
  rw [fromFirst, List.dropWhile_append_of_pos (bne_mark_of_mem absent),
    List.dropWhile_cons_of_neg (by simp)]

/-- A text that has a first mark is cut there, and no mark stands before it. -/
theorem eq_append_of_fromFirst {c : CodePoint} {tail : Text}
    (found : text.fromFirst mark = c :: tail) :
    mark ∉ text.upTo mark ∧ text = text.upTo mark ++ mark :: tail := by
  have first : c = mark := by
    -- The first code point that is not passed over is the mark.
    have stops := List.head?_dropWhile_not (· != mark) text
    rw [fromFirst] at found
    rw [found] at stops
    simpa using stops
  have absent : mark ∉ text.upTo mark := by
    intro member
    simpa using List.mem_takeWhile_imp member
  refine ⟨absent, ?_⟩
  -- What is taken and what is left are the text.
  have whole : text.upTo mark ++ text.fromFirst mark = text := List.takeWhile_append_dropWhile
  rw [found, first] at whole
  exact whole.symm

end FirstPlace

section LastPlace

/-- A text is cut at the last place of a mark in one way only. -/
theorem eq_of_append_mark {other behind after : Text} (absent : mark ∉ behind)
    (also : mark ∉ after) (same : part ++ mark :: behind = other ++ mark :: after) :
    part = other ∧ behind = after := by
  have ends : behind = after := by
    -- Read from its end, the text has either cut at the first place of the mark.
    have backwards := congrArg (fun text : Text => upTo mark text.reverse) same
    simp only [List.reverse_append, List.reverse_cons, List.append_assoc,
      List.singleton_append] at backwards
    rw [upTo_append_mark (by simpa using absent), upTo_append_mark (by simpa using also)]
      at backwards
    exact List.reverse_inj.mp backwards
  subst ends
  exact ⟨List.append_cancel_right same, rfl⟩

end LastPlace

end Text

end SolcRelease
