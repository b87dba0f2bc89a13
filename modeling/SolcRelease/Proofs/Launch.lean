import SolcRelease.Launch
import SolcRelease.Proofs.Outcome
import SolcRelease.Proofs.Warnings

/-!
Making a service under any logging settings: which level it logs from, which file it logs to, when
it warns that there is no such file, and which two settings keep it from being made.
-/

namespace SolcRelease

namespace Level

variable {level : Level} {name : Text}

/-- The names of a level in capitals: the one it is shown by, and for two levels a second one. -/
def names : Level → List Text
  | .warning => ["WARNING", "WARN"]
  | .critical => ["CRITICAL", "FATAL"]
  | level => [level.name]

/-- Two names stand for layouts of log lines, and for no level. -/
def IsLayoutName (name : Text) : Prop :=
  name = "BASIC_FORMAT" ∨ name = "_STYLES"

/-- A level is found by each of its names. -/
theorem named_of_mem_names (listed : name ∈ level.names) : named name = .ok level := by
  cases level with
  | warning | critical =>
    rcases List.mem_cons.mp listed with rfl | second
    · rfl
    · rw [List.mem_singleton.mp second]
      rfl
  | unset | debug | info | error =>
    rw [List.mem_singleton.mp listed]
    rfl

/-- A name of no level stands for the normal one, unless it stands for a layout. -/
theorem named_of_not_mem_names (unlisted : ∀ level : Level, name ∉ level.names)
    (plain : ¬ IsLayoutName name) : named name = .ok .info := by
  have other (level : Level) (word : Text) (listed : word ∈ level.names) : name ≠ word := by
    rintro rfl
    exact unlisted level listed
  have noDebug := other .debug "DEBUG" List.mem_cons_self
  have noWarning := other .warning "WARNING" List.mem_cons_self
  have noWarn := other .warning "WARN" (List.mem_cons_of_mem _ List.mem_cons_self)
  have noError := other .error "ERROR" List.mem_cons_self
  have noCritical := other .critical "CRITICAL" List.mem_cons_self
  have noFatal := other .critical "FATAL" (List.mem_cons_of_mem _ List.mem_cons_self)
  have noUnset := other .unset "NOTSET" List.mem_cons_self
  obtain ⟨noFormat, noStyles⟩ := not_or.mp plain
  -- The name passes every test that a level or a layout would not.
  simp only [named, noDebug, noWarning, noWarn, noError, noCritical, noFatal, noUnset, noFormat,
    noStyles, or_self, if_false]

/-- No level can be made of a layout. -/
theorem named_of_isLayoutName (layout : IsLayoutName name) :
    ∃ fault, named name = .error fault := by
  rcases layout with rfl | rfl
  · exact ⟨.levelNamesLayout, rfl⟩
  · exact ⟨.levelNamesLayouts, rfl⟩

end Level

/-- A setting gives a whole number: the one it holds, or one by default if it is unset. -/
def Settings.Gives (settings : Settings) (setting : Setting) (default value : Int) : Prop :=
  settings setting = none ∧ value = default ∨
    ∃ text, settings setting = some text ∧ Numeral.whole text = .ok value

/-- A log file is the one that the settings ask for, and can be had. -/
structure LogFile.IsConfigured (world : World) (level : Level) (file : LogFile) : Prop where
  /-- The settings name a path, and the file lies there. -/
  path : ∃ path, world.settings .logFile = some path ∧ path ≠ [] ∧
    file.path = Path.absolute world.directory path
  /-- The settings give the number of bytes, five mebibytes by default. -/
  maxBytes : world.settings.Gives .logMaxBytes 5242880 file.maxBytes
  /-- The settings give the number of old files, five by default. -/
  backups : world.settings.Gives .logBackups 5 file.backups
  /-- The file can be opened. -/
  opens : world.opens file.path = true
  /-- The file takes what the service logs. -/
  level : file.level = level

namespace Logging

variable {world : World} {level : Level} {file : LogFile} {journal : Journal}

/-- The name that the settings give to the level, in capitals. -/
def levelName (settings : Settings) : Text :=
  Text.upperCase (settings.getOr .logLevel "INFO")

/-- The settings name a file to log to, whether it can be had or not. -/
def WantsFile (settings : Settings) : Prop :=
  ∃ path, settings .logFile = some path ∧ path ≠ []

/-- The file that the settings ask for, if it can be had. -/
def file? (world : World) (level : Level) : Option LogFile :=
  (world.settings.nonempty? .logFile).bind (fileAt? world level)

/-- A number is found if the setting gives it. -/
theorem number?_eq_some_iff {settings : Settings} {setting : Setting} {default : Text}
    {usual value : Int} (read : Numeral.whole default = .ok usual) :
    number? settings setting default = some value ↔ settings.Gives setting usual value := by
  rw [number?, Settings.getOr, Settings.Gives]
  cases settings setting with
  | none => simp [read, Except.toOption, eq_comm]
  | some text =>
    cases found : Numeral.whole text <;> simp [found, Except.toOption]

/-- A path is named if the setting holds more than the empty text. -/
theorem nonempty?_eq_some_iff {settings : Settings} {setting : Setting} {text : Text} :
    settings.nonempty? setting = some text ↔ settings setting = some text ∧ text ≠ [] := by
  rw [Settings.nonempty?, Option.filter_eq_some_iff]
  simp

/-- The file that is found is the one that is configured. -/
theorem file?_eq_some_iff : file? world level = some file ↔ file.IsConfigured world level := by
  have bytes : Numeral.whole "5242880" = .ok 5242880 := by with_unfolding_all rfl
  have five : Numeral.whole "5" = .ok 5 := by with_unfolding_all rfl
  simp only [file?, fileAt?, Option.bind_eq_bind, Option.bind_eq_some_iff,
    nonempty?_eq_some_iff, number?_eq_some_iff bytes, number?_eq_some_iff five]
  constructor
  · rintro ⟨path, ⟨named, nonempty⟩, maxBytes, givesBytes, backups, givesBackups, opened⟩
    split at opened
    · rename_i opens
      cases opened
      exact ⟨⟨path, named, nonempty, rfl⟩, givesBytes, givesBackups, opens, rfl⟩
    · cases opened
  · rintro ⟨⟨path, named, nonempty, place⟩, givesBytes, givesBackups, opens, sameLevel⟩
    refine ⟨path, ⟨named, nonempty⟩, _, givesBytes, _, givesBackups, ?_⟩
    rw [place] at opens
    rw [if_pos opens, ← place, ← sameLevel]

/-- What is logged about the file that the settings ask for. -/
def fileEvents (world : World) (level : Level) : Journal :=
  match world.settings.nonempty? .logFile with
  | none => []
  | some path =>
    match fileAt? world level path with
    | some file =>
      [.logged ⟨.service, .info, "RotatingFileHandler attached path=" ++ path
        ++ " max_bytes=" ++ Decimal.signed file.maxBytes
        ++ " backups=" ++ Decimal.signed file.backups⟩]
    | none =>
      [.logged ⟨.service, .warning, "failed attaching RotatingFileHandler for " ++ path⟩]

/-- Attaching the log file comes to the file that is found, and never fails. -/
theorem runAfter_attachFile (world : World) (level : Level) (journal : Journal) :
    (attachFile level).runAfter world journal =
      (.ok (file? world level), journal ++ fileEvents world level) := by
  have reading : (read : Activity World).runAfter world journal = (.ok world, journal) := rfl
  simp only [attachFile, Activity.runAfter_bind, reading, file?, fileEvents]
  cases world.settings.nonempty? .logFile with
  | none => simp
  | some path =>
    -- Whether the file can be had or not, there is one record about it.
    cases found : fileAt? world level path with
    | none =>
      simp only [Option.bind_some, found]
      rfl
    | some file =>
      simp only [Option.bind_some, found]
      rfl

/-- A file that is wanted and is not found is worth one warning. -/
theorem exists_warnings_fileEvents (wanted : WantsFile world.settings)
    (missing : file? world level = none) :
    ∃ message, (fileEvents world level).warnings = [⟨.service, .warning, message⟩] := by
  obtain ⟨path, held⟩ := wanted
  have named := nonempty?_eq_some_iff.mpr held
  rw [file?, named, Option.bind_some] at missing
  refine ⟨"failed attaching RotatingFileHandler for " ++ path, ?_⟩
  simp [fileEvents, named, missing]

/-- Without a wish for a file, or with the file, there is no warning. -/
theorem warnings_fileEvents_eq_nil
    (content : ¬ WantsFile world.settings ∨ file? world level ≠ none) :
    (fileEvents world level).warnings = [] := by
  cases named : world.settings.nonempty? .logFile with
  | none => simp [fileEvents, named]
  | some path =>
    -- The file is wanted, so it must be there.
    have wanted : WantsFile world.settings := ⟨path, nonempty?_eq_some_iff.mp named⟩
    have there := content.resolve_left (not_not_intro wanted)
    rw [file?, named, Option.bind_some] at there
    obtain ⟨file, found⟩ := Option.ne_none_iff_exists'.mp there
    simp [fileEvents, named, found]

/-- The record that ends the setting up of the logging. -/
def readyEvent (settings : Settings) : Event :=
  .logged ⟨.service, .info, "Logging initialized at level " ++ levelName settings⟩

/-- Logging is set up if the level that is named is one. -/
theorem runAfter_setUp (world : World) (journal : Journal) :
    setUp.runAfter world journal =
      match Level.named (levelName world.settings) with
      | .ok level =>
        (.ok ⟨level, file? world level⟩,
          journal ++ fileEvents world level ++ [readyEvent world.settings])
      | .error fault => (.error (.fault fault), journal) := by
  simp only [setUp, Activity.runAfter_bind, Activity.runAfter_settings,
    Activity.runAfter_ofOutcome, levelName, readyEvent]
  cases Level.named (Text.upperCase (world.settings.getOr .logLevel "INFO")) with
  | error fault => rfl
  | ok level =>
    have mapped : (Except.ok level : Except Fault Level).mapError Failure.fault = .ok level := rfl
    -- Attaching the file never fails, so the level alone decides.
    simp only [mapped, runAfter_attachFile, Activity.runAfter_log, Activity.runAfter_pure]

end Logging

/-- A service that was made with some events logs as the settings ask for, where they can be met. -/
structure Running.IsSetUp (world : World) (running : Running) (events : Journal) : Prop where
  /-- A level that is named is the one from which the service logs. -/
  named : ∀ level : Level, Logging.levelName world.settings ∈ level.names →
    running.logging.level = level
  /-- Where no level is named the service logs from the normal one. -/
  unnamed : (∀ level : Level, Logging.levelName world.settings ∉ level.names) →
    running.logging.level = .info
  /-- The service logs to the file that is configured, and to no other. -/
  attached : ∀ file, running.logging.file = some file ↔
    file.IsConfigured world running.logging.level
  /-- A file that is wanted and cannot be had is worth one warning. -/
  warned : Logging.WantsFile world.settings → running.logging.file = none →
    ∃ message, events.warnings = [⟨.service, .warning, message⟩]
  /-- There is no warning otherwise. -/
  quiet : ¬ Logging.WantsFile world.settings ∨ running.logging.file ≠ none →
    events.warnings = []

namespace Service

variable {decoder : Option Decoder} {world : World} {journal : Journal}

/-- Making a service tolerates the logging settings if there is a service that logs by them. -/
def ToleratesLogging (decoder : Option Decoder) (world : World) (journal : Journal) : Prop :=
  ∃ running events, (create decoder).outcome world journal = .ok running ∧
    (create decoder).after world journal = journal ++ events ∧ running.IsSetUp world events

/-- What a service is made of, if its level can be made. -/
theorem runAfter_create (decoder : Option Decoder) (world : World) (journal : Journal) :
    (create decoder).runAfter world journal =
      match Level.named (Logging.levelName world.settings) with
      | .ok level =>
        (.ok ⟨⟨decoder, world.settings.getOr .serviceVersion "0.1.0"⟩,
            ⟨level, Logging.file? world level⟩⟩,
          journal ++ (Logging.fileEvents world level ++ [Logging.readyEvent world.settings]))
      | .error fault => (.error (.fault fault), journal) := by
  simp only [create, Activity.runAfter_bind, Logging.runAfter_setUp, List.append_assoc]
  cases Level.named (Logging.levelName world.settings) <;> rfl

/-- A service is made whose logging is as the settings ask for, unless they name a layout. -/
theorem toleratesLogging_of_not_isLayoutName
    (plain : ¬ Level.IsLayoutName (Logging.levelName world.settings)) :
    ToleratesLogging decoder world journal := by
  -- The level is one that is named, or else the normal one.
  obtain ⟨level, found, unnamed⟩ : ∃ level,
      Level.named (Logging.levelName world.settings) = .ok level ∧
        ((∀ other : Level, Logging.levelName world.settings ∉ other.names) → level = .info) := by
    by_cases listed : ∃ level : Level, Logging.levelName world.settings ∈ level.names
    · obtain ⟨level, isName⟩ := listed
      exact ⟨level, Level.named_of_mem_names isName, fun none => absurd isName (none level)⟩
    · rw [not_exists] at listed
      exact ⟨.info, Level.named_of_not_mem_names listed plain, fun _ => rfl⟩
  have created := runAfter_create decoder world journal
  simp only [found] at created
  refine ⟨_, _, congrArg Prod.fst created, congrArg Prod.snd created, ?_, unnamed, ?_, ?_, ?_⟩
  · intro other isName
    rw [Level.named_of_mem_names isName] at found
    exact (Except.ok.inj found).symm
  · intro file
    exact Logging.file?_eq_some_iff
  · intro wanted missing
    -- The record at the end is no warning.
    rw [Journal.warnings_append]
    obtain ⟨message, warned⟩ := Logging.exists_warnings_fileEvents wanted missing
    exact ⟨message, by rw [warned]; rfl⟩
  · intro content
    rw [Journal.warnings_append, Logging.warnings_fileEvents_eq_nil content]
    rfl

/-- No service is made where the settings name a layout, and nothing is logged. -/
theorem runAfter_create_of_isLayoutName (decoder : Option Decoder) (journal : Journal)
    (layout : Level.IsLayoutName (Logging.levelName world.settings)) :
    ∃ fault, (create decoder).runAfter world journal = (.error (.fault fault), journal) := by
  obtain ⟨fault, failed⟩ := Level.named_of_isLayoutName layout
  refine ⟨fault, ?_⟩
  rw [runAfter_create, failed]

/-- A service whose settings name a layout is not made, so its logging is not tolerated. -/
theorem not_toleratesLogging_of_isLayoutName
    (layout : Level.IsLayoutName (Logging.levelName world.settings)) :
    ¬ ToleratesLogging decoder world journal := by
  rintro ⟨running, events, made, -⟩
  obtain ⟨fault, failed⟩ := runAfter_create_of_isLayoutName decoder journal layout
  rw [Activity.outcome, failed] at made
  cases made

/--
Making a service tolerates all logging settings but two: a level by the name of a layout is a fault,
before anything is logged.
-/
theorem toleratesLogging_iff (decoder : Option Decoder) (world : World) (journal : Journal) :
    (ToleratesLogging decoder world journal ↔
      ¬ Level.IsLayoutName (Logging.levelName world.settings)) ∧
    (Level.IsLayoutName (Logging.levelName world.settings) →
      ∃ fault, (create decoder).runAfter world journal = (.error (.fault fault), journal)) := by
  refine ⟨⟨fun tolerates layout => ?_, toleratesLogging_of_not_isLayoutName⟩, ?_⟩
  · exact not_toleratesLogging_of_isLayoutName layout tolerates
  · exact runAfter_create_of_isLayoutName decoder journal

/-- A world in which the level is given by the name of a layout, in small letters. -/
def layoutNamed : World :=
  ⟨Settings.unset.update .logLevel (some "basic_format"), fun _ => .unreachable [] [], .hundred, 0,
    [], fun _ => false⟩

/-- The logging of a service is not tolerated where the level has the name of a layout. -/
theorem not_toleratesLogging_layoutNamed : ¬ ToleratesLogging none layoutNamed [] := by
  have capitals : Logging.levelName layoutNamed.settings = "BASIC_FORMAT" := by decide +kernel
  exact not_toleratesLogging_of_isLayoutName (Or.inl capitals)

end Service

end SolcRelease
