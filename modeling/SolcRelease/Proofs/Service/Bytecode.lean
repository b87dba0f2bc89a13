import SolcRelease.Proofs.Service.Payload
import SolcRelease.Proofs.Text.Blank

/-!
What is given as bytecode: a text is decoded if it holds pairs of hexadecimal digits, to the bytes
that these are the digits of, and anything else is refused.
-/

namespace SolcRelease

namespace Payload

/-- The marks that may stand in front of hexadecimal digits. -/
def hexMarks : List Text :=
  ["0x", "0X"]

/-- The digits in a core are what is left of it without one mark, if it begins with a mark. -/
def LeavesDigits (core digits : Text) : Prop :=
  (∃ mark ∈ hexMarks, core = mark ++ digits) ∨
    (∀ mark ∈ hexMarks, ¬ mark <+: core) ∧ core = digits

/-- What is given holds digits if it is a string that is not blank, and they are in its core. -/
def Holds (blank : CodePoint → Bool) (given : Option Json) (digits : Text) : Prop :=
  ∃ text core, given = some (.string text) ∧ Text.IsCore blank text core ∧ core ≠ [] ∧
    LeavesDigits core digits

/-- A refusal of what is given as bytecode, whose body has these details or none. -/
def Refuses (outcome : Except Refusal Bytes) (details : Option Json) : Prop :=
  ∃ cause : Refusal, ∃ body, outcome = .error cause ∧ cause.body = .ok body ∧
    cause.code = "VALIDATION_ERROR" ∧ cause.status = 400 ∧ body.member? "details" = details

/-- What becomes of anything given as bytecode, in every case there is. -/
structure FollowsDigits (blank : CodePoint → Bool) (given : Option Json)
    (outcome : Except Refusal Bytes) : Prop where
  /-- Bytes come of pairs of digits, and of nothing else. -/
  accepted : (∃ bytes, outcome = .ok bytes) ↔ ∃ digits, Holds blank given digits ∧
    Hex.HasPairs digits
  /-- They are half as many as the digits, which are theirs if written small. -/
  decoded : ∀ digits bytes, Holds blank given digits → outcome = .ok bytes →
    digits.length = 2 * bytes.length ∧ Hex.encode bytes = digits.map CodePoint.toLower
  /-- Any bytes are given by their digits in any cases, behind a mark if there are no digits. -/
  written : ∀ before mark digits after bytes, (∀ c ∈ before, blank c) → (∀ c ∈ after, blank c) →
    (mark ∈ hexMarks ∨ mark = [] ∧ bytes ≠ []) →
    List.Forall₂ Hex.IsCaseOf digits (Hex.encode bytes) →
    given = some (.string (before ++ (mark ++ digits) ++ after)) → outcome = .ok bytes
  /-- Digits that are no pairs are refused with their number. -/
  unpaired : ∀ digits, Holds blank given digits → ¬ Hex.HasPairs digits →
    Refuses outcome (some (.object [("length", .whole digits.length)]))
  /-- What holds no digits at all is refused without details. -/
  missing : (∀ digits, ¬ Holds blank given digits) → Refuses outcome none

variable {core digits : Text} {given : Option Json} {bytecode : Bytes}

section Digits

/-- What is left of a core is what is left when its mark is dropped. -/
theorem leavesDigits_iff : LeavesDigits core digits ↔ dropHexMark core = digits := by
  have marks : hexMarks = [[.char '0', .char 'x'], [.char '0', .char 'X']] := rfl
  simp only [LeavesDigits, marks, List.mem_cons, List.not_mem_nil, or_false, exists_eq_or_imp,
    exists_eq_left, forall_eq_or_imp, forall_eq]
  -- The cases are those of the marks, and of a core that begins with neither.
  unfold dropHexMark
  split
  · simp
  · simp
  · rename_i small large
    have noSmall : ¬ [CodePoint.char '0', .char 'x'] <+: core := by
      rintro ⟨rest, rfl⟩
      exact small rest rfl
    have noLarge : ¬ [CodePoint.char '0', .char 'X'] <+: core := by
      rintro ⟨rest, rfl⟩
      exact large rest rfl
    constructor
    · rintro ((rfl | rfl) | ⟨-, same⟩)
      · exact absurd (List.prefix_append _ _) noSmall
      · exact absurd (List.prefix_append _ _) noLarge
      · exact same
    · intro same
      exact Or.inr ⟨⟨noSmall, noLarge⟩, same⟩

/-- What is given holds just the digits that are looked at. -/
theorem holds_iff :
    Holds isBlank given digits ↔ ∃ text, given = some (.string text) ∧ text.strip ≠ [] ∧
      dropHexMark text.strip = digits := by
  simp only [Holds, leavesDigits_iff, Text.isCore_iff]
  constructor
  · rintro ⟨text, core, same, rfl, nonempty, left⟩
    exact ⟨text, same, nonempty, left⟩
  · rintro ⟨text, same, nonempty, left⟩
    exact ⟨text, _, same, rfl, nonempty, left⟩

/-- Bytes come of the digits that are held, if they are the digits of the bytes. -/
theorem bytecodeOf_eq_ok_iff_holds :
    bytecodeOf given = .ok bytecode ↔
      ∃ digits, Holds isBlank given digits ∧
        digits.map CodePoint.toLower = Hex.encode bytecode := by
  simp only [bytecodeOf_eq_ok_iff, holds_iff, HasDigits]
  constructor
  · rintro ⟨raw, same, nonempty, digits⟩
    exact ⟨_, ⟨raw, same, nonempty, rfl⟩, digits⟩
  · rintro ⟨_, ⟨raw, same, nonempty, rfl⟩, digits⟩
    exact ⟨raw, same, nonempty, digits⟩

end Digits

section Outcomes

/-- Bytes come of what is given if it holds pairs of digits. -/
theorem exists_bytecodeOf_iff :
    (∃ bytes, bytecodeOf given = .ok bytes) ↔
      ∃ digits, Holds isBlank given digits ∧ Hex.HasPairs digits := by
  simp only [bytecodeOf_eq_ok_iff_holds, ← Hex.exists_encode_iff]
  -- Which bytes they are is decided by the digits, so they are looked for last.
  constructor
  · rintro ⟨bytes, digits, held, same⟩
    exact ⟨digits, held, bytes, same⟩
  · rintro ⟨digits, held, bytes, same⟩
    exact ⟨bytes, digits, held, same⟩

/-- Only one row of digits is held. -/
theorem Holds.unique {others : Text} (held : Holds isBlank given digits)
    (also : Holds isBlank given others) : digits = others := by
  obtain ⟨text, same, -, left⟩ := holds_iff.mp held
  obtain ⟨again, equal, -, right⟩ := holds_iff.mp also
  -- One string is given, and one thing is left of it.
  rw [same] at equal
  cases equal
  rw [← left, ← right]

/-- Digits that cannot be decoded are refused with their number. -/
theorem refuses_of_not_hasPairs (held : Holds isBlank given digits)
    (unpaired : ¬ Hex.HasPairs digits) :
    Refuses (bytecodeOf given) (some (.object [("length", .whole digits.length)])) := by
  obtain ⟨text, rfl, nonempty, rfl⟩ := holds_iff.mp held
  cases read : Hex.decode (dropHexMark text.strip) with
  | ok bytes =>
    -- What is decoded has pairs.
    exact absurd (Hex.exists_encode_iff.mp ⟨bytes, Hex.decode_eq_ok_iff.mp read⟩) unpaired
  | error flaw =>
    refine ⟨.invalidInput (.bytecodeNotHex flaw (dropHexMark text.strip).length), _, ?_, rfl, rfl,
      rfl, rfl⟩
    simp [bytecodeOf, nonempty, read]

/-- What holds no digits is refused as if nothing were given. -/
theorem refuses_of_not_holds (none : ∀ digits, ¬ Holds isBlank given digits) :
    Refuses (bytecodeOf given) Option.none := by
  refine ⟨.invalidInput .bytecodeMissing, _, ?_, rfl, rfl, rfl, rfl⟩
  unfold bytecodeOf
  split
  · rename_i text
    -- A string that is not blank would hold the digits that are left of it.
    have blank : text.strip = [] := by
      by_contra nonempty
      exact none _ (holds_iff.mpr ⟨text, rfl, nonempty, rfl⟩)
    rw [blank]
    rfl
  · rfl

end Outcomes

section Written

variable {mark : Text}

/-- Neither a mark nor the digits behind it are blank anywhere. -/
theorem isBlank_eq_false_of_marked (marked : mark ∈ hexMarks ∨ mark = [])
    (pairs : Hex.HasPairs digits) : ∀ c ∈ mark ++ digits, isBlank c = false := by
  intro c member
  rcases List.mem_append.mp member with inMark | inDigits
  · rcases marked with isMark | rfl
    · exact (by decide : ∀ mark ∈ hexMarks, ∀ c ∈ mark, isBlank c = false) mark isMark c inMark
    · cases inMark
  · exact (by decide : ∀ c ∈ Hex.digits, isBlank c = false) c (pairs.made c inDigits)

/-- Digits are left behind their mark, and all of them are left where there is no mark. -/
theorem leavesDigits_of_marked (marked : mark ∈ hexMarks ∨ mark = [])
    (pairs : Hex.HasPairs digits) : LeavesDigits (mark ++ digits) digits := by
  rcases marked with isMark | rfl
  · exact Or.inl ⟨mark, isMark, rfl⟩
  · -- The digits begin with no mark, since the second character of a mark is no digit.
    refine Or.inr ⟨fun other isMark front => ?_, rfl⟩
    obtain ⟨c, inside, foreign⟩ :=
      (by decide : ∀ mark ∈ hexMarks, ∃ c ∈ mark, c ∉ Hex.digits) other isMark
    exact foreign (pairs.made c (front.subset inside))

/-- The digits of some bytes are not nothing, unless there are neither bytes nor a mark. -/
theorem ne_nil_of_marked (marked : mark ∈ hexMarks ∨ mark = [] ∧ bytecode ≠ [])
    (same : digits.map CodePoint.toLower = Hex.encode bytecode) : mark ++ digits ≠ [] := by
  rcases marked with isMark | ⟨rfl, someBytes⟩
  · have long : mark ≠ [] := (by decide : ∀ mark ∈ hexMarks, mark ≠ []) mark isMark
    exact List.append_ne_nil_of_left_ne_nil long _
  · rintro rfl
    -- No digits at all are those of no bytes.
    have lengths := congrArg List.length same
    rw [Hex.length_encode, List.map_nil, List.length_nil] at lengths
    exact someBytes (List.length_eq_zero_iff.mp (by omega))

/-- Whatever is written around the digits of some bytes, and in whatever case, they are decoded. -/
theorem bytecodeOf_written {before after : Text} (front : ∀ c ∈ before, isBlank c)
    (behind : ∀ c ∈ after, isBlank c) (marked : mark ∈ hexMarks ∨ mark = [] ∧ bytecode ≠ [])
    (either : List.Forall₂ Hex.IsCaseOf digits (Hex.encode bytecode)) :
    bytecodeOf (some (.string (before ++ (mark ++ digits) ++ after))) = .ok bytecode := by
  have same := Hex.map_toLower_of_isCaseOf either
  have pairs : Hex.HasPairs digits := Hex.exists_encode_iff.mp ⟨bytecode, same⟩
  have perhaps : mark ∈ hexMarks ∨ mark = [] := marked.imp_right And.left
  have plain := isBlank_eq_false_of_marked perhaps pairs
  -- So the blanks around mark and digits are all that is stripped.
  have isCore : Text.IsCore isBlank (before ++ (mark ++ digits) ++ after) (mark ++ digits) :=
    ⟨⟨before, after, rfl, front, behind⟩, fun c found => plain c (List.mem_of_mem_head? found),
      fun c found => plain c (List.mem_of_mem_getLast? found)⟩
  exact bytecodeOf_eq_ok_iff_holds.mpr ⟨digits, ⟨_, _, rfl, isCore, ne_nil_of_marked marked same,
    leavesDigits_of_marked perhaps pairs⟩, same⟩

end Written

/--
A string that is not blank is decoded if pairs of digits are left of it, to the bytes that have
them, and otherwise refused with their number; anything else is refused without details.
-/
theorem bytecodeOf_followsDigits (given : Option Json) :
    FollowsDigits isBlank given (bytecodeOf given) where
  accepted := exists_bytecodeOf_iff
  decoded := by
    intro digits bytes held found
    obtain ⟨others, also, same⟩ := bytecodeOf_eq_ok_iff_holds.mp found
    obtain rfl := held.unique also
    -- Both sides of the equation have the same length.
    have lengths := congrArg List.length same
    rw [List.length_map, Hex.length_encode] at lengths
    exact ⟨lengths, same.symm⟩
  written := by
    rintro before mark digits after bytes front behind marked either rfl
    exact bytecodeOf_written front behind marked either
  unpaired := fun _ => refuses_of_not_hasPairs
  missing := refuses_of_not_holds

/-- Capitals behind a capital mark, with blanks around them, are the digits of their bytes. -/
theorem bytecodeOf_followsDigits_capitals :
    bytecodeOf (some (.string " 0X6A\n")) = .ok [0x6a] := by
  have cases : List.Forall₂ Hex.IsCaseOf ("6A" : Text) (Hex.encode [0x6a]) :=
    .cons (Or.inl rfl) (.cons (Or.inr rfl) .nil)
  refine (bytecodeOf_followsDigits _).written " " "0X" "6A" "\n" [0x6a] (by decide) (by decide)
    (Or.inl (by decide)) cases rfl

/--
A separator of ASCII is no Unicode white space, and yet one in front of the digits is passed over.
-/
theorem not_followsDigits_separator :
    ¬ FollowsDigits isNumeralBlank (some (.string "\x1c00"))
      (bytecodeOf (some (.string "\x1c00"))) := by
  intro follows
  have found : bytecodeOf (some (.string "\x1c00")) = .ok [0] :=
    bytecodeOf_eq_ok_iff.mpr ⟨_, rfl, by decide, by decide⟩
  obtain ⟨digits, ⟨text, core, same, isCore, -, left⟩, pairs⟩ := follows.accepted.mp ⟨_, found⟩
  cases same
  -- The separator would be one of the digits.
  obtain rfl : core = "\x1c00" := (Text.isCore_iff.mp isCore).trans (by decide)
  obtain rfl := leavesDigits_iff.mp left
  exact absurd (pairs.made (.char '\x1c') (by decide)) (by decide)

end Payload

end SolcRelease
