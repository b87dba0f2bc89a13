import SolcRelease.Failure

/-! Outcomes of two steps in a row: the second counts where the first has a value. -/

namespace SolcRelease

namespace Outcome

variable {ε α β : Type} {first : Except ε α} {next : α → Except ε β}

/-- After a value the second step decides. -/
@[simp] theorem ok_bind (value : α) (next : α → Except ε β) :
    (Except.ok value >>= next) = next value :=
  rfl

/-- After a failure there is no second step. -/
@[simp] theorem error_bind (failure : ε) (next : α → Except ε β) :
    (Except.error failure >>= next) = .error failure :=
  rfl

/-- An outcome that has a value is that value. -/
theorem eq_ok_of_toOption {result : Except ε α} {value : α}
    (found : result.toOption = some value) : result = .ok value := by
  cases result with
  | ok other => exact congrArg Except.ok (Option.some.inj found)
  | error failure => cases found

/-- Two steps have a value if the first has one and the second has one from there. -/
theorem bind_eq_ok_iff {value : β} :
    (first >>= next) = .ok value ↔
      ∃ middle, first = .ok middle ∧ next middle = .ok value := by
  cases first with
  -- The value in the middle is the one that the first step has.
  | ok middle => simp [Bind.bind, Except.bind]
  -- Nothing follows a failure, so there is neither value.
  | error failure => simp [Bind.bind, Except.bind]

section Excess

/-- Writing has a value as a whole if it has it to begin with. -/
theorem ofWriting_eq_ok_iff {α : Type} {result : Except TooManyDigits α} {value : α} :
    Failure.ofWriting result = .ok value ↔ result = .ok value := by
  cases result <;> simp [Failure.ofWriting]

variable {α β : Type} {one other : Except Failure α}

/-- Two outcomes are alike if they are the same, or if on both sides a number was too long. -/
def Alike (one other : Except Failure α) : Prop :=
  one = other ∨ ∃ excess another : TooManyDigits,
    one = .error (.ofExcess excess) ∧ other = .error (.ofExcess another)

/-- The same outcome is alike. -/
theorem Alike.of_eq (same : one = other) : Alike one other :=
  Or.inl same

/-- Two steps in a row are alike if each of them is. -/
theorem Alike.bind {next after : α → Except Failure β} (alike : Alike one other)
    (goes : ∀ value, Alike (next value) (after value)) :
    Alike (one >>= next) (other >>= after) := by
  rcases alike with rfl | ⟨excess, another, rfl, rfl⟩
  · -- The second step begins with the same value, if there is one.
    cases one with
    | ok value => exact goes value
    | error failure => exact .of_eq rfl
  · exact Or.inr ⟨excess, another, rfl, rfl⟩

/-- Alike outcomes go on alike with one next step. -/
theorem Alike.then (alike : Alike one other) (next : α → Except Failure β) :
    Alike (one >>= next) (other >>= next) :=
  alike.bind fun _ => .of_eq rfl

/-- Values made of alike outcomes in one way are alike. -/
theorem Alike.map (alike : Alike one other) (make : α → β) :
    Alike (one.map make) (other.map make) := by
  rcases alike with rfl | ⟨excess, another, rfl, rfl⟩
  · exact .of_eq rfl
  · exact Or.inr ⟨excess, another, rfl, rfl⟩

end Excess

end Outcome

end SolcRelease
