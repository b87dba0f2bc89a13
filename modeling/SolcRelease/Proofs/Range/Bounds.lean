import Mathlib.Data.List.Nodup
import SolcRelease.Proofs.Outcome
import SolcRelease.Range.Bounds

/-! The configured bounds, by the texts that the settings have for them under their names. -/

namespace SolcRelease

/-- The settings give a text under a name: the one that is held, or one by default. -/
def Settings.Supplies (settings : Settings) (name default text : Text) : Prop :=
  ∃ setting : Setting, setting.name = name ∧
    (settings setting = some text ∨ settings setting = none ∧ text = default)

/-- No setting is left out where they all are. -/
theorem Setting.mem_all (setting : Setting) : setting ∈ Setting.all := by
  cases setting <;> decide

/-- Settings are told apart by their names, and by how long these are. -/
theorem Setting.eq_of_name {one other : Setting} (same : one.name = other.name) : one = other := by
  have lengths : (Setting.all.map fun setting => setting.name.length).Nodup := by decide +kernel
  exact List.inj_on_of_nodup_map lengths one.mem_all other.mem_all (congrArg List.length same)

/-- The text under the name of a setting is the one that is looked at. -/
theorem Settings.supplies_name_iff {settings : Settings} (setting : Setting)
    {default text : Text} :
    settings.Supplies setting.name default text ↔ settings.getOr setting default = text := by
  rw [Settings.getOr]
  constructor
  · rintro ⟨other, same, held⟩
    -- Only one setting has the name.
    obtain rfl := Setting.eq_of_name same
    rcases held with held | ⟨unset, rfl⟩
    · rw [held, Option.getD_some]
    · rw [unset, Option.getD_none]
  · rintro rfl
    refine ⟨setting, rfl, ?_⟩
    cases settings setting with
    | some held => exact Or.inl rfl
    | none => exact Or.inr ⟨rfl, rfl⟩

namespace Bound

/-- The name under which the settings have a bound. -/
def name : Bound → Text
  | .metadataFirst => "SOLCVER_METADATA_FIRST_VERSION"
  | .versionlessLast => "SOLCVER_VERSIONLESS_METADATA_LAST_VERSION"

/-- The text of a bound under whose name the settings have none. -/
def usual : Bound → Text
  | .metadataFirst => "0.4.7"
  | .versionlessLast => "0.5.8"

/-- A bound is configured by a text: the one under its name, or the usual one if there is none. -/
def IsConfigured (bound : Bound) (settings : Settings) (text : Text) : Prop :=
  settings.Supplies bound.name bound.usual text

variable {bound : Bound} {settings : Settings} {version : Version} {text : Text}

/-- The text that configures a bound is the one that is looked at. -/
theorem isConfigured_iff : bound.IsConfigured settings text ↔ bound.text settings = text := by
  -- The names and the usual texts are those of the settings of both bounds.
  cases bound with
  | metadataFirst => exact Settings.supplies_name_iff .metadataFirst
  | versionlessLast => exact Settings.supplies_name_iff .versionlessLast

/-- A bound is the version that its text is read as. -/
theorem version_of_read (configured : bound.IsConfigured settings text)
    (read : Version.read text = .ok version) : bound.version settings = .ok version := by
  rw [Bound.version, isConfigured_iff.mp configured, read]

/-- A bound with a number that is too long is a fault. -/
theorem version_of_long {excess : TooManyDigits} (configured : bound.IsConfigured settings text)
    (long : Version.read text = .error (.tooManyDigits excess)) :
    bound.version settings = .error (.ofExcess excess) := by
  rw [Bound.version, isConfigured_iff.mp configured, long]

end Bound

end SolcRelease
