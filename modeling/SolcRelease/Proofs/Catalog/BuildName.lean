import SolcRelease.Catalog.BuildName
import SolcRelease.Proofs.Text.Parts

/-!
File names of builds. A name is that of a file in at most one way, since the platform ends at the
first dash and the identifier at the last dot.
-/

namespace SolcRelease

namespace BuildName

/-- The parts of a file name `platform-identifier.suffix`. -/
@[ext]
structure FileName where
  /-- What the build runs on. -/
  platform : Text
  /-- The identifier of the build, which may have dashes and dots of its own. -/
  identifier : Text
  /-- The kind of file. -/
  suffix : Text
  /-- There is a platform. -/
  platform_ne_nil : platform ≠ []
  /-- The platform ends before the first dash. -/
  dashless : .char '-' ∉ platform
  /-- There is an identifier. -/
  identifier_ne_nil : identifier ≠ []
  /-- The identifier is one line. -/
  oneLine : .char '\n' ∉ identifier
  /-- There is a suffix. -/
  suffix_ne_nil : suffix ≠ []
  /-- The suffix has letters only. -/
  letters : ∀ c ∈ suffix, c.isAlpha = true

namespace FileName

/-- The text of a file name. -/
def text (file : FileName) : Text :=
  file.platform ++ .char '-' :: (file.identifier ++ .char '.' :: file.suffix)

/-- A name is that of a file if it is the text, which one line feed may follow. -/
def Names (file : FileName) (name : Text) : Prop :=
  name = file.text ∨ name = file.text ++ [.char '\n']

end FileName

section Pieces

variable {text before rest : Text}

/-- A final line feed is dropped. -/
theorem dropFinalLineFeed_append (text : Text) :
    dropFinalLineFeed (text ++ [.char '\n']) = text := by
  simp [dropFinalLineFeed]

/-- What ends otherwise keeps its end. -/
theorem dropFinalLineFeed_of_last {c : CodePoint} (last : text.getLast? = some c)
    (other : c ≠ .char '\n') : dropFinalLineFeed text = text := by
  obtain ⟨front, rfl⟩ := List.getLast?_eq_some_iff.mp last
  simp [dropFinalLineFeed, other]

/-- All that may be dropped from a text is a line feed at its end. -/
theorem eq_dropFinalLineFeed (text : Text) :
    text = dropFinalLineFeed text ∨ text = dropFinalLineFeed text ++ [.char '\n'] := by
  unfold dropFinalLineFeed
  split
  · -- Read from its end, the text begins with the line feed.
    rename_i rest ends
    right
    rw [← List.reverse_cons, ← ends, List.reverse_reverse]
  · exact Or.inl rfl

/-- A suffix is a dot with letters behind it, at the end of the text. -/
theorem beforeSuffix?_eq_some_iff :
    beforeSuffix? text = some before ↔
      ∃ suffix, suffix ≠ [] ∧ (∀ c ∈ suffix, c.isAlpha = true) ∧
        text = before ++ .char '.' :: suffix := by
  constructor
  · intro found
    unfold beforeSuffix? at found
    split at found
    · -- Read from its end, the text is the letters and then the dot.
      rename_i c letters rest taken left
      cases found
      have whole : text.reverse = c :: letters ++ .char '.' :: rest := by
        rw [← taken, ← left, List.takeWhile_append_dropWhile]
      refine ⟨(c :: letters).reverse, by simp, ?_, ?_⟩
      · intro d member
        rw [List.mem_reverse, ← taken] at member
        exact List.mem_takeWhile_imp member
      · rw [← List.reverse_reverse text, whole]
        simp
    · cases found
  · rintro ⟨suffix, nonempty, letters, rfl⟩
    have ends : (before ++ .char '.' :: suffix).reverse
        = suffix.reverse ++ .char '.' :: before.reverse := by
      simp
    have backwards : ∀ c ∈ suffix.reverse, c.isAlpha = true := by
      simpa using letters
    have dot : ¬ CodePoint.isAlpha (.char '.') = true := by decide
    -- The letters are taken from the end up to the dot, which is no letter.
    have taken : (before ++ .char '.' :: suffix).reverse.takeWhile CodePoint.isAlpha
        = suffix.reverse := by
      rw [ends, List.takeWhile_append_of_pos backwards, List.takeWhile_cons_of_neg dot,
        List.append_nil]
    have left : (before ++ .char '.' :: suffix).reverse.dropWhile CodePoint.isAlpha
        = .char '.' :: before.reverse := by
      rw [ends, List.dropWhile_append_of_pos backwards, List.dropWhile_cons_of_neg dot]
    obtain ⟨c, others, split⟩ := List.exists_cons_of_ne_nil
      (mt List.reverse_eq_nil_iff.mp nonempty)
    rw [beforeSuffix?, taken, left, split]
    simp

end Pieces

section Reading

variable {name found : Text} {file other : FileName}

/-- A final line feed of a name is none of the file's own. -/
theorem dropFinalLineFeed_parts (file : FileName) :
    dropFinalLineFeed (file.identifier ++ .char '.' :: file.suffix) =
      file.identifier ++ .char '.' :: file.suffix := by
  -- The last code point is a letter of the suffix.
  have last : (file.identifier ++ .char '.' :: file.suffix).getLast? =
      some (file.suffix.getLast file.suffix_ne_nil) := by
    rw [List.getLast?_append, List.getLast?_cons, List.getLast?_eq_some_getLast file.suffix_ne_nil]
    rfl
  refine dropFinalLineFeed_of_last last fun same => ?_
  have letter := file.letters _ (List.getLast_mem file.suffix_ne_nil)
  rw [same] at letter
  exact absurd letter (by decide)

/-- The first dash of a file's name is told, and then what stands behind it. -/
theorem FileName.Names.parts (names : file.Names name) :
    name.upTo '-' = file.platform ∧ ∃ rest, name.fromFirst '-' = .char '-' :: rest ∧
      dropFinalLineFeed rest = file.identifier ++ .char '.' :: file.suffix := by
  rcases names with rfl | rfl
  · -- The suffix ends the name.
    exact ⟨Text.upTo_append_mark file.dashless _, _, Text.fromFirst_append_mark file.dashless _,
      dropFinalLineFeed_parts file⟩
  · -- The line feed ends it.
    have behind : file.text ++ [.char '\n'] = file.platform ++ .char '-' ::
        (file.identifier ++ .char '.' :: file.suffix ++ [.char '\n']) := by
      simp [FileName.text]
    rw [behind]
    exact ⟨Text.upTo_append_mark file.dashless _, _, Text.fromFirst_append_mark file.dashless _,
      dropFinalLineFeed_append _⟩

/-- What stands before the suffix of a file is its identifier. -/
theorem beforeSuffix?_parts (file : FileName) :
    beforeSuffix? (file.identifier ++ .char '.' :: file.suffix) = some file.identifier :=
  beforeSuffix?_eq_some_iff.mpr ⟨file.suffix, file.suffix_ne_nil, file.letters, rfl⟩

/-- A name is that of one file at most. -/
theorem FileName.Names.unique (names : file.Names name) (also : other.Names name) :
    other = file := by
  obtain ⟨platform, rest, behind, parts⟩ := names.parts
  obtain ⟨platform', rest', behind', parts'⟩ := also.parts
  -- Both have the same text behind the first dash, and there the same one before the suffix.
  have whole : other.identifier ++ .char '.' :: other.suffix =
      file.identifier ++ .char '.' :: file.suffix := by
    rw [behind, List.cons.injEq] at behind'
    rw [← parts, ← parts', behind'.2]
  have identifier : other.identifier = file.identifier := by
    have found := beforeSuffix?_parts other
    rw [whole, beforeSuffix?_parts file] at found
    exact (Option.some.inj found).symm
  have suffix : other.suffix = file.suffix := by
    rw [identifier, List.append_cancel_left_eq, List.cons.injEq] at whole
    exact whole.2
  exact FileName.ext (platform'.symm.trans platform) identifier suffix

/-- A name has an identifier if it is that of a file, and then it has that of the file. -/
theorem identifier?_eq_some_iff :
    identifier? name = some found ↔
      ∃ file : FileName, file.Names name ∧ file.identifier = found := by
  constructor
  · intro isFound
    unfold identifier? at isFound
    split at isFound
    · rename_i c platform dash rest before behind
      obtain ⟨whole, kept⟩ := Option.filter_eq_some_iff.mp isFound
      simp only [Bool.and_eq_true, Bool.not_eq_true', List.isEmpty_eq_false_iff] at kept
      obtain ⟨nonempty, oneLine⟩ := kept
      obtain ⟨suffix, someSuffix, letters, parts⟩ := beforeSuffix?_eq_some_iff.mp whole
      obtain ⟨dashless, name_eq⟩ := Text.eq_append_of_fromFirst behind
      -- Behind the dash there are the identifier and the suffix, and at most a line feed.
      have ends : name = name.upTo '-' ++ .char '-' :: (found ++ .char '.' :: suffix) ∨
          name = name.upTo '-' ++ .char '-' :: (found ++ .char '.' :: suffix) ++ [.char '\n'] := by
        rw [← parts]
        rcases eq_dropFinalLineFeed rest with same | broken
        · rw [← same]
          exact Or.inl name_eq
        · rw [List.append_assoc, List.cons_append, ← broken]
          exact Or.inr name_eq
      exact ⟨⟨name.upTo '-', found, suffix, by simp [before], dashless, nonempty,
        by simpa using oneLine, someSuffix, letters⟩, ends, rfl⟩
    · cases isFound
  · rintro ⟨file, names, rfl⟩
    obtain ⟨platform, rest, behind, parts⟩ := names.parts
    obtain ⟨c, others, first⟩ := List.exists_cons_of_ne_nil file.platform_ne_nil
    rw [identifier?, platform, behind, first]
    simp only [parts, beforeSuffix?_parts]
    simp [file.identifier_ne_nil, file.oneLine]

/-- A build that has a name has an identifier that is not empty. -/
theorem identifier_ne_nil {name : Text} (named : name ≠ []) : identifier name ≠ [] := by
  unfold identifier
  cases found : identifier? name with
  | none =>
    -- A name of no file is its own identifier.
    exact named
  | some identifier =>
    -- The identifier in the name of a file is not empty.
    obtain ⟨file, -, rfl⟩ := identifier?_eq_some_iff.mp found
    exact file.identifier_ne_nil

/-- The identifier of a build that is named by a file is the one of the file. -/
theorem identifier_of_names (names : file.Names name) : identifier name = file.identifier := by
  rw [identifier, identifier?_eq_some_iff.mpr ⟨file, names, rfl⟩, Option.getD_some]

/-- A build that is named by no file is named by its identifier. -/
theorem identifier_of_not_names (other : ∀ file : FileName, ¬ file.Names name) :
    identifier name = name := by
  have none : identifier? name = none := by
    -- What would be found would be the identifier of a file with that name.
    rw [Option.eq_none_iff_forall_ne_some]
    intro found isFound
    obtain ⟨file, names, -⟩ := identifier?_eq_some_iff.mp isFound
    exact other file names
  rw [identifier, none, Option.getD_none]

/-- The platform of a file is what stands before the first dash of its name. -/
theorem FileName.Names.isUpToFirst (names : file.Names name) :
    Text.IsUpToFirst (.char '-') file.platform name := by
  refine ⟨file.dashless, ?_⟩
  rcases names with rfl | rfl
  · exact ⟨_, rfl⟩
  · exact ⟨_, by rw [FileName.text, List.append_assoc, List.cons_append]⟩

/-- The identifier of a file ends at the last dot of its name. -/
theorem FileName.Names.isUpToLast (names : file.Names name) :
    Text.IsUpToLast (.char '.') (file.platform ++ .char '-' :: file.identifier) name := by
  -- Neither a letter nor the line feed is a dot.
  have undotted : .char '.' ∉ file.suffix := fun member =>
    absurd (file.letters _ member) (by decide)
  rcases names with rfl | rfl
  · exact ⟨file.suffix, undotted, by simp [FileName.text]⟩
  · exact ⟨file.suffix ++ [.char '\n'], by simp [undotted], by simp [FileName.text]⟩

/-- Behind the last dot of a file's name there is nothing but its suffix and maybe a line feed. -/
theorem FileName.Names.behind_eq {part behind : Text} (undotted : .char '.' ∉ behind)
    (names : file.Names (part ++ .char '.' :: behind)) :
    behind = file.suffix ∨ behind = file.suffix ++ [.char '\n'] := by
  have plain : .char '.' ∉ file.suffix := fun member =>
    absurd (file.letters _ member) (by decide)
  -- Either name of the file has its own last dot in front of the suffix.
  rcases names with same | same
  · have whole : part ++ .char '.' :: behind =
        (file.platform ++ .char '-' :: file.identifier) ++ .char '.' :: file.suffix := by
      simp [same, FileName.text]
    exact Or.inl (Text.eq_of_append_mark undotted plain whole).2
  · have whole : part ++ .char '.' :: behind =
        (file.platform ++ .char '-' :: file.identifier) ++
          .char '.' :: (file.suffix ++ [.char '\n']) := by
      simp [same, FileName.text]
    exact Or.inr (Text.eq_of_append_mark undotted (by simp [plain]) whole).2

end Reading

/--
The identifier of a build is that of the file by which it is named, or else the whole name.

There is one such file at most, whose platform ends at the first dash and whose identifier ends at
the last dot; and no name that is not empty has an empty identifier.
-/
theorem identifier_unwraps (name : Text) :
    (∀ file : FileName, file.Names name →
      identifier name = file.identifier ∧ (∀ other : FileName, other.Names name → other = file) ∧
        Text.IsUpToFirst (.char '-') file.platform name ∧
        Text.IsUpToLast (.char '.') (file.platform ++ .char '-' :: file.identifier) name) ∧
    ((∀ file : FileName, ¬ file.Names name) → identifier name = name) ∧
    (∀ file : FileName, identifier file.text = file.identifier) ∧
    (name ≠ [] → identifier name ≠ []) := by
  refine ⟨?_, identifier_of_not_names, ?_, identifier_ne_nil⟩
  · intro file names
    exact ⟨identifier_of_names names, fun other also => names.unique also, names.isUpToFirst,
      names.isUpToLast⟩
  · intro file
    -- The text of a file is one of its two names.
    exact identifier_of_names (Or.inl rfl)

/-- The file of a build whose identifier has dashes and dots. -/
def linuxBuild : FileName where
  platform := "solc"
  identifier := "linux-amd64-v0.8.4+commit.c7e474f2"
  suffix := "exe"
  platform_ne_nil := by decide
  dashless := by decide
  identifier_ne_nil := by decide
  oneLine := by decide
  suffix_ne_nil := by decide
  letters := List.all_eq_true.mp (by decide)

/-- Dashes and dots of the identifier stay in it, and a line feed behind the suffix goes. -/
theorem identifier_unwraps_linuxBuild :
    identifier "solc-linux-amd64-v0.8.4+commit.c7e474f2.exe\n" =
      "linux-amd64-v0.8.4+commit.c7e474f2" := by
  have names : linuxBuild.Names "solc-linux-amd64-v0.8.4+commit.c7e474f2.exe\n" :=
    Or.inr rfl
  exact ((identifier_unwraps _).1 linuxBuild names).1

end BuildName

end SolcRelease
