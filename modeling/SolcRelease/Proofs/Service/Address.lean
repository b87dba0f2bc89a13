import SolcRelease.Proofs.Service.Session
import SolcRelease.Proofs.Text.Parts
import SolcRelease.Proofs.Text.Row
import SolcRelease.Proofs.Text.Utf8

/-! Plain addresses, each of which is just a path: a request with one of them reads that path. -/

namespace SolcRelease

namespace Url

variable {c : CodePoint} {bytes : Bytes} {part : Text}

/-- A character that stands for itself is a visible one of ASCII, and no mark of an address. -/
theorem bounds_of_isPlainInPath (plain : isPlainInPath c = true) :
    32 < c.toNat ∧ c.toNat < 128 ∧ c.toNat ≠ 35 ∧ c.toNat ≠ 37 ∧ c.toNat ≠ 63 := by
  have signs : ∀ sign ∈ ("_.-~!$&'()*+,/:;=@" : Text),
      32 < sign.toNat ∧ sign.toNat < 128 ∧ sign.toNat ≠ 35 ∧ sign.toNat ≠ 37 ∧
        sign.toNat ≠ 63 := by decide
  simp only [isPlainInPath, CodePoint.isAlphanum, Bool.or_eq_true, List.contains_iff_mem] at plain
  -- The letters and the digits lie between those signs, and the three marks do not.
  rcases plain with (letter | digit) | sign
  · have bounds := CodePoint.bounds_of_isAlpha letter
    omega
  · have bounds := CodePoint.bounds_of_isDigit digit
    omega
  · exact signs c sign

/-- Without percent signs there is nothing to decode. -/
theorem percentDecode_of_not_mem (absent : 0x25 ∉ bytes) : percentDecode bytes = bytes := by
  -- The cases are those of the decoding: a percent sign with digits or not, and any other byte.
  fun_induction percentDecode bytes with
  | case1 => simp at absent
  | case2 => simp at absent
  | case3 byte rest _ ih => rw [ih fun member => absent (List.mem_cons_of_mem _ member)]
  | case4 => rfl

/-- A part of an address stands for itself if its characters do. -/
theorem decoded_of_plain (plain : ∀ c ∈ part, isPlainInPath c = true) : decoded part = part := by
  have ascii : Utf8.IsAscii part := fun c member => (bounds_of_isPlainInPath (plain c member)).2.1
  have absent : 0x25 ∉ Utf8.encode part := by
    rw [Utf8.encode_of_isAscii ascii]
    intro member
    obtain ⟨c, inside, same⟩ := List.mem_map.mp member
    obtain ⟨-, small, -, other, -⟩ := bounds_of_isPlainInPath (plain c inside)
    -- The byte has the number of its character, which is not that of a percent sign.
    have number : c.toNat % 256 = 37 := by
      have equal := congrArg UInt8.toNat same
      rwa [UInt8.toNat_ofNat'] at equal
    omega
  rw [decoded, percentDecode_of_not_mem absent, Utf8.decodeLenient_encode ascii]

end Url

namespace Target

/-- An address is plain if it is a path, of characters that stand for themselves. -/
structure IsPlain (address : Text) : Prop where
  /-- It begins with one slash. -/
  rooted : ∃ rest, address = .char '/' :: rest ∧ rest.head? ≠ some (.char '/')
  /-- Each of its characters stands for itself. -/
  plain : ∀ c ∈ address, Url.isPlainInPath c = true

variable {address rest : Text}

/-- More than a slash and plain characters behind it are plain. -/
theorem IsPlain.append {more : Text} (front : IsPlain address) (long : 1 < address.length)
    (plain : ∀ c ∈ more, Url.isPlainInPath c = true) : IsPlain (address ++ more) := by
  obtain ⟨⟨rest, rfl, single⟩, others⟩ := front
  refine ⟨⟨rest ++ more, rfl, ?_⟩, ?_⟩
  · -- There is a character behind the slash, and it stays there.
    cases rest with
    | nil => simp at long
    | cons c behind => exact single
  · intro c member
    rcases List.mem_append.mp member with before | after
    · exact others c before
    · exact plain c after

/-- Nothing is cleaned off a plain address. -/
theorem cleaned_of_isPlain (isPlain : IsPlain address) : cleaned address = address := by
  obtain ⟨⟨rest, rfl, -⟩, plain⟩ := isPlain
  -- The slash in front is no blank, and no character behind it is a break.
  rw [cleaned, List.dropWhile_cons_of_neg (by decide), List.filter_eq_self]
  intro c member
  obtain ⟨visible, -⟩ := Url.bounds_of_isPlainInPath (plain c member)
  have differs {other : Char} (control : other.toNat ≤ 32) : c ≠ .char other := by
    rintro rfl
    exact absurd visible (Nat.not_lt.mpr control)
  simp [differs]

/-- What begins with a slash begins with no scheme. -/
theorem splitScheme_slash : splitScheme (.char '/' :: rest) = (none, .char '/' :: rest) :=
  rfl

/-- What begins with just one slash begins with no authority. -/
theorem splitAuthority_slash (single : rest.head? ≠ some (.char '/')) :
    splitAuthority (.char '/' :: rest) = (none, .char '/' :: rest) := by
  unfold splitAuthority
  split
  · -- There would be a second slash.
    rename_i behind same
    obtain rfl := (List.cons.inj same).2
    exact absurd rfl single
  · rfl

/-- A plain address has the path that it is. -/
theorem path_ofAddress (isPlain : IsPlain address) : (ofAddress address).path = address := by
  have clean := cleaned_of_isPlain isPlain
  have whole := Url.decoded_of_plain isPlain.plain
  -- Neither the mark of a fragment nor that of a query stands for itself.
  have unmarked (mark : CodePoint) (sign : mark.toNat = 35 ∨ mark.toNat = 63) :
      address.upTo mark = address := by
    refine Text.upTo_of_not_mem fun member => ?_
    have bounds := Url.bounds_of_isPlainInPath (isPlain.plain mark member)
    omega
  obtain ⟨rest, rfl, single⟩ := isPlain.rooted
  -- There is neither a scheme nor an authority in front, and neither a query nor a fragment behind.
  simp only [ofAddress, clean, splitScheme_slash, splitAuthority_slash single,
    unmarked '#' (Or.inl rfl), unmarked '?' (Or.inr rfl), whole]

end Target

namespace Dispatch

/-- A path with one slash in front stays as it is. -/
theorem rooted_of_single {rest : Text} (single : rest.head? ≠ some (.char '/')) :
    rooted (.char '/' :: rest) = .char '/' :: rest := by
  cases rest with
  | nil => rfl
  | cons c more =>
    have other : (c == .char '/') = false := by simpa using single
    -- The slash in front is dropped and put back, and nothing else is.
    have left : List.dropWhile (fun c : CodePoint => c == '/') (.char '/' :: c :: more) =
        c :: more := by
      rw [List.dropWhile_cons_of_pos (by decide), List.dropWhile_cons, other]
      rfl
    exact congrArg (("/" : Text) ++ ·) left

end Dispatch

namespace Service

/-- The address of a version's compiler is plain. -/
theorem isPlain_compilers (version : Version) :
    Target.IsPlain (("/api/compilers/" : Text) ++ version.written) := by
  have front : Target.IsPlain "/api/compilers/" :=
    ⟨⟨("api/compilers/" : Text), rfl, by decide⟩, by decide⟩
  refine front.append (by decide) fun c member => ?_
  -- A written version has digits and dots only.
  rcases Version.digit_or_dot_of_mem_written member with digit | rfl
  · simp [Url.isPlainInPath, CodePoint.isAlphanum, digit]
  · decide

/-- A request with a plain address reads it. -/
theorem reads_of_isPlain {address : Text} (isPlain : Target.IsPlain address)
    (contentType : Option Text) (body : Bytes) :
    Reads ⟨"GET", address, contentType, body⟩ address := by
  have capitals : ("GET" : Text).upperCase = "GET" := by decide
  refine ⟨Or.inl capitals, ?_⟩
  rw [Target.path_ofAddress isPlain]
  -- Routing puts exactly one slash in front, which is there already.
  obtain ⟨rest, rfl, single⟩ := isPlain.rooted
  exact Dispatch.rooted_of_single single

end Service

end SolcRelease
