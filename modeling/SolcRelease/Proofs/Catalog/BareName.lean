import SolcRelease.Proofs.Catalog.Lookup
import SolcRelease.Proofs.Text.Hex

/-!
Bare names of builds, which end with the hash of a commit where a file name ends with a suffix. A
digit in the hash tells them from file names; a hash of letters alone is taken for a suffix.
-/

namespace SolcRelease

namespace BuildName

/-- The parts of a bare name `solc-platform-vversion+commit.hash`. -/
structure BareName where
  /-- What the build runs on. -/
  platform : Text
  /-- The version that was built. -/
  version : Version
  /-- The first digits of the hash of the commit that was built. -/
  commit : Text
  /-- There is a platform. -/
  platform_ne_nil : platform ≠ []
  /-- The platform is one line. -/
  oneLine : .char '\n' ∉ platform
  /-- The version can be written. -/
  fits : version.Fits
  /-- Eight digits of the hash are given. -/
  length_commit : commit.length = 8
  /-- They are hexadecimal, and none of them is a capital. -/
  hexadecimal : ∀ c ∈ commit, ∃ value < 16, c = .char (hexDigit value)

namespace BareName

/-- What stands between the first dash of a bare name and its last dot. -/
def core (name : BareName) : Text :=
  name.platform ++ ("-v" : Text) ++ name.version.written ++ ("+commit" : Text)

/-- The text of a bare name. -/
def text (name : BareName) : Text :=
  ("solc-" : Text) ++ name.platform ++ ("-v" : Text) ++ name.version.written ++
    ("+commit." : Text) ++ name.commit

variable (name : BareName)

/-- A bare name has a dash in front of its core and a dot behind it. -/
theorem text_eq :
    name.text = ("solc" : Text) ++ .char '-' :: (name.core ++ .char '.' :: name.commit) := by
  have dash : ("solc-" : Text) = ("solc" : Text) ++ [.char '-'] := rfl
  have dot : ("+commit." : Text) = ("+commit" : Text) ++ [.char '.'] := rfl
  simp [text, core, dash, dot]

/-- The core of a bare name is shorter than the name. -/
theorem core_ne_text : name.core ≠ name.text := by
  intro same
  have lengths := congrArg List.length same
  rw [text_eq] at lengths
  simp only [List.length_append, List.length_cons] at lengths
  omega

/-- There is a core. -/
theorem core_ne_nil : name.core ≠ [] := by
  simp [core, Text.ofString, Text.ofChars]

/-- The core is one line. -/
theorem oneLine_core : .char '\n' ∉ name.core := by
  simp only [core, List.mem_append, not_or]
  -- The platform is one by what is asked of it, and a version is written with digits and dots.
  refine ⟨⟨⟨name.oneLine, by decide⟩, fun member => ?_⟩, by decide⟩
  rcases Version.digit_or_dot_of_mem_written member with digit | dot
  · cases digit
  · cases dot

/-- There is a hash. -/
theorem commit_ne_nil : name.commit ≠ [] := by
  intro empty
  have length := name.length_commit
  rw [empty] at length
  cases length

/-- What stands before the first dash of a bare name is not empty. -/
theorem solc_ne_nil : ("solc" : Text) ≠ [] := by decide

/-- No dash stands in it. -/
theorem dash_not_mem_solc : .char '-' ∉ ("solc" : Text) := by decide

/-- The file that a bare name is taken for if its hash has letters only. -/
def asFile (letters : ∀ c ∈ name.commit, c.isAlpha = true) : FileName where
  platform := "solc"
  identifier := name.core
  suffix := name.commit
  platform_ne_nil := solc_ne_nil
  dashless := dash_not_mem_solc
  identifier_ne_nil := name.core_ne_nil
  oneLine := name.oneLine_core
  suffix_ne_nil := name.commit_ne_nil
  letters := letters

variable {name}

/-- A hash without a decimal digit has letters only. -/
theorem isAlpha_of_no_digit (none : ¬ ∃ c ∈ name.commit, c.isDigit = true) :
    ∀ c ∈ name.commit, c.isAlpha = true := by
  intro c member
  obtain ⟨value, small, rfl⟩ := name.hexadecimal c member
  rw [isAlpha_hexDigit small, Bool.not_eq_true']
  -- Otherwise this would be a decimal digit of the hash.
  by_contra digit
  exact none ⟨_, member, by simpa using digit⟩

/-- No dot stands in a hash. -/
theorem dot_not_mem_commit : .char '.' ∉ name.commit := by
  intro member
  obtain ⟨value, small, same⟩ := name.hexadecimal _ member
  -- A dot is neither a letter nor a digit, and each of the sixteen digits is one of the two.
  have kind := isAlpha_hexDigit small
  rw [← same] at kind
  exact absurd kind (by decide)

/-- A hash of letters makes the bare name that of a file, with the core for an identifier. -/
theorem identifier_of_letters (letters : ∀ c ∈ name.commit, c.isAlpha = true) :
    identifier name.text = name.core := by
  have names : (name.asFile letters).Names name.text := Or.inl name.text_eq
  exact identifier_of_names names

/-- A hash with a decimal digit is no suffix, so the bare name is that of no file. -/
theorem identifier_of_digit (digit : ∃ c ∈ name.commit, c.isDigit = true) :
    identifier name.text = name.text := by
  obtain ⟨c, member, isDigit⟩ := digit
  apply identifier_of_not_names
  intro file names
  have cut : name.text = (("solc" : Text) ++ .char '-' :: name.core) ++
      .char '.' :: name.commit := by
    simp [text_eq]
  rw [cut] at names
  -- The digit would be one of the letters of the suffix, or else the line feed.
  have within : c ∈ file.suffix ∨ c = .char '\n' := by
    rcases names.behind_eq dot_not_mem_commit with same | same
    · rw [same] at member
      exact Or.inl member
    · rw [same] at member
      simpa using member
  rcases within with letter | rfl
  · have ofLetter := CodePoint.bounds_of_isAlpha (file.letters c letter)
    have ofDigit := CodePoint.bounds_of_isDigit isDigit
    omega
  · cases isDigit

end BareName

/--
A bare name is left as it is, by itself and as a build in a catalog, just if there is a decimal
digit in its hash; with a hash of letters alone it is cut like the name of a file.
-/
theorem bareName_kept_iff (name : BareName) :
    (∃ shown, name.version.text = .ok shown ∧
      name.text = ("solc-" : Text) ++ name.platform ++ ("-v" : Text) ++ shown ++
        ("+commit." : Text) ++ name.commit) ∧
    (identifier name.text = name.text ↔ ∃ c ∈ name.commit, c.isDigit = true) ∧
    ((∀ c ∈ name.commit, c.isAlpha = true) → identifier name.text = name.core) ∧
    ∀ (text : Text) (version : Version) (source : Option Catalog) (catalog : Catalog)
      (world : World) (journal : Journal),
      Version.ofText text = .ok version →
      (Catalog.orFetched source).outcome world journal = .ok catalog →
      Entries.get? catalog.releases text = some name.text →
      (Catalog.resolve text source).outcome world journal = .ok (identifier name.text) := by
  refine ⟨⟨_, Version.text_eq_ok_iff.mpr ⟨name.fits, rfl⟩, rfl⟩, ?_, BareName.identifier_of_letters,
    ?_⟩
  · constructor
    · intro kept
      by_contra none
      -- Without a digit the hash is all letters, and the core is what is left of the name.
      have cut := BareName.identifier_of_letters (BareName.isAlpha_of_no_digit none)
      exact name.core_ne_text (cut.symm.trans kept)
    · exact BareName.identifier_of_digit
  · intro text version source catalog world journal readable had entry
    have named : catalog.build? text = some name.text :=
      Catalog.build?_eq_some_iff.mpr ⟨entry, by simp [BareName.text_eq]⟩
    exact Catalog.outcome_resolve_of_build? world journal readable had named

/-- A bare name with digits in its hash. -/
def linuxName : BareName where
  platform := "linux-amd64"
  version := ⟨0, 8, 4⟩
  commit := "c7e474f2"
  platform_ne_nil := by decide
  oneLine := by decide
  fits := Version.fits_iff.mpr (by decide)
  length_commit := by decide
  hexadecimal := by decide

/-- A bare name whose hash has letters only. -/
def lettersName : BareName :=
  { linuxName with
    commit := "deadbeef"
    length_commit := by decide
    hexadecimal := by decide }

/-- A bare name with digits in its hash is found as it is, and one without is cut. -/
theorem bareName_kept_linuxName :
    (∃ world : World,
      (Catalog.resolve " 0.8.4" (some ⟨[(" 0.8.4", linuxName.text)], []⟩)).outcome world [] =
        .ok "solc-linux-amd64-v0.8.4+commit.c7e474f2") ∧
    identifier lettersName.text = "linux-amd64-v0.8.4+commit" := by
  obtain ⟨-, kept, -, resolves⟩ := bareName_kept_iff linuxName
  obtain ⟨-, -, cut, -⟩ := bareName_kept_iff lettersName
  constructor
  · obtain ⟨world⟩ := (inferInstance : Nonempty World)
    have shown : linuxName.text = "solc-linux-amd64-v0.8.4+commit.c7e474f2" := by decide
    have readable : Version.ofText " 0.8.4" = .ok ⟨0, 8, 4⟩ :=
      Version.ofText_eq_ok_iff.mpr (by decide)
    refine ⟨world, ?_⟩
    rw [resolves _ _ _ _ world [] readable rfl rfl, kept.mpr ⟨.char '7', by decide, rfl⟩, shown]
  · rw [cut (by decide)]
    decide

/-- Not every bare name is left as it is. -/
theorem not_bareName_kept_lettersName :
    lettersName.text = "solc-linux-amd64-v0.8.4+commit.deadbeef" ∧
      ¬ identifier lettersName.text = lettersName.text := by
  refine ⟨by decide, fun kept => ?_⟩
  have letters : ∀ c ∈ lettersName.commit, c.isAlpha = true := by decide
  rw [BareName.identifier_of_letters letters] at kept
  exact lettersName.core_ne_text kept

end BuildName

end SolcRelease
