import TokenStream.Settings.Options

namespace TokenStream

open TokenStream.Journal

/-- The problem with a name that is given and not known. -/
def unknownName (parse? : String → Option α) (unknown : String → Problem)
    (written : Option String) : Option Problem :=
  (written.filter fun name => (parse? name).isNone).map unknown

namespace Overrides

/-- The problems with the names that are given, in the order in which the names are looked up. -/
def problems (overrides : Overrides) : List Problem :=
  [unknownName OutputFormat.parse? .unknownFormat overrides.format,
   unknownName LogLevel.parse? .unknownLogLevel overrides.logLevel,
   unknownName LogLevel.parse? .unknownLogLevel overrides.lexerLogLevel,
   unknownName Style.parse? .unknownLogFormat overrides.logFormat].filterMap id

/-- Every option by itself: what is asked for, or what the settings say, or what holds without them.
The settings do not speak about the style and the place of the journal. -/
def onTopOf (overrides : Overrides) (settings : FileSettings) : RunOptions where
  output :=
    { format := (overrides.format.bind OutputFormat.parse?).getD settings.output.format
      showSpans := overrides.showSpans.getD settings.output.showSpans }
  levels :=
    { overall :=
        (((overrides.logLevel.bind LogLevel.parse?).or settings.logLevel).map LogLevel.level).getD
          .warn
      lexer :=
        ((overrides.lexerLogLevel.bind LogLevel.parse?).or settings.lexerLogLevel).map
          LogLevel.level }
  logStyle := (overrides.logFormat.bind Style.parse?).getD .compact
  logFile := overrides.logFile

/-- The settings differ in nothing that can be seen beneath the overrides. -/
structure SameBeneath (overrides : Overrides) (first second : FileSettings) : Prop where
  format : overrides.format = none → first.output.format = second.output.format
  showSpans : overrides.showSpans = none → first.output.showSpans = second.output.showSpans
  logLevel : overrides.logLevel = none → first.logLevel = second.logLevel
  lexerLogLevel : overrides.lexerLogLevel = none → first.lexerLogLevel = second.lexerLogLevel

end Overrides

/-- A name stays as it is, or is given where there was none and stands for what holds anyway. -/
def RestatedName (parse? : String → Option α) (holds : α) (written written' : Option String) : Prop :=
  written' = written ∨ written = none ∧ ∃ name, written' = some name ∧ parse? name = some holds

/-- The second overrides are the first and may ask for what the settings say anyway. -/
structure Overrides.Restated (settings : FileSettings) (overrides fuller : Overrides) : Prop where
  format : RestatedName OutputFormat.parse? settings.output.format overrides.format fuller.format
  showSpans : fuller.showSpans = overrides.showSpans ∨
    overrides.showSpans = none ∧ fuller.showSpans = some settings.output.showSpans
  logLevel : RestatedName (fun name => (LogLevel.parse? name).map some) settings.logLevel
    overrides.logLevel fuller.logLevel
  lexerLogLevel : RestatedName (fun name => (LogLevel.parse? name).map some) settings.lexerLogLevel
    overrides.lexerLogLevel fuller.lexerLogLevel
  logFormat : fuller.logFormat = overrides.logFormat
  logFile : fuller.logFile = overrides.logFile

section

variable {parse? : String → Option α} {unknown : String → Problem} {written : Option String}

theorem override_congr {first second : α} (same : written = none → first = second) :
    override parse? unknown written first = override parse? unknown written second := by
  cases written with
  | none => rw [same rfl]
  | some name => rfl

theorem RestatedName.override_eq {holds : α} {written' : Option String}
    (restated : RestatedName parse? holds written written') :
    override parse? unknown written' holds = override parse? unknown written holds := by
  rcases restated with rfl | ⟨rfl, name, rfl, known⟩
  · rfl
  · simp [override, known]

theorem override_eq_elim (otherwise : α) :
    override parse? unknown written otherwise =
      (unknownName parse? unknown written).elim (.ok ((written.bind parse?).getD otherwise))
        .error := by
  cases written with
  | none => rfl
  | some name => cases found : parse? name <;> simp [override, unknownName, found, Option.filter]

theorem unknownName_eq_none_iff :
    unknownName parse? unknown written = none ↔ ∀ name ∈ written, (parse? name).isSome = true := by
  simp [unknownName, Option.isSome_iff_ne_none]

theorem unknownName_map_some :
    unknownName (fun name => (parse? name).map some) unknown written =
      unknownName parse? unknown written := by
  simp only [unknownName, Option.isNone_map]

theorem bind_map_some_getD (otherwise : Option α) :
    (written.bind fun name => (parse? name).map some).getD otherwise =
      (written.bind parse?).or otherwise := by
  cases written with
  | none => rfl
  | some name => cases found : parse? name <;> simp [found]

end

theorem Overrides.problems_eq_nil_iff {overrides : Overrides} :
    overrides.problems = [] ↔
      (∀ name ∈ overrides.format, (OutputFormat.parse? name).isSome = true) ∧
        (∀ name ∈ overrides.logLevel, (LogLevel.parse? name).isSome = true) ∧
        (∀ name ∈ overrides.lexerLogLevel, (LogLevel.parse? name).isSome = true) ∧
        ∀ name ∈ overrides.logFormat, (Style.parse? name).isSome = true := by
  simp [problems, unknownName_eq_none_iff]

namespace RunOptions

theorem resolve_eq_elim (overrides : Overrides) (settings : FileSettings) :
    resolve overrides settings =
      overrides.problems.head?.elim (.ok (overrides.onTopOf settings)) .error := by
  simp only [resolve, override_eq_elim, unknownName_map_some, bind_map_some_getD,
    Overrides.problems]
  -- The names are looked up one after another, and the first that is unknown ends it.
  cases unknownName OutputFormat.parse? .unknownFormat overrides.format with
  | some problem => rfl
  | none =>
      cases unknownName LogLevel.parse? .unknownLogLevel overrides.logLevel with
      | some problem => rfl
      | none =>
          cases unknownName LogLevel.parse? .unknownLogLevel overrides.lexerLogLevel with
          | some problem => rfl
          | none =>
              cases unknownName Style.parse? .unknownLogFormat overrides.logFormat with
              | some problem => rfl
              | none => rfl

theorem resolve_eq_error_iff {overrides : Overrides} {settings : FileSettings} {problem : Problem} :
    resolve overrides settings = .error problem ↔ overrides.problems.head? = some problem := by
  rw [resolve_eq_elim]
  cases overrides.problems.head? <;> simp

theorem resolve_eq_ok_iff {overrides : Overrides} {settings : FileSettings} {options : RunOptions} :
    resolve overrides settings = .ok options ↔
      overrides.problems = [] ∧ options = overrides.onTopOf settings := by
  rw [resolve_eq_elim, ← List.head?_eq_none_iff]
  cases overrides.problems.head? <;> simp [eq_comm]

theorem resolve_eq_of_sameBeneath {overrides : Overrides} {settings other : FileSettings}
    (same : overrides.SameBeneath settings other) :
    resolve overrides settings = resolve overrides other := by
  have spans : overrides.showSpans.getD settings.output.showSpans =
      overrides.showSpans.getD other.output.showSpans := by
    cases asked : overrides.showSpans with
    | none => exact same.showSpans asked
    | some value => rfl
  simp only [resolve]
  rw [override_congr same.format, override_congr same.logLevel, override_congr same.lexerLogLevel,
    spans]

theorem resolve_eq_of_restated {overrides fuller : Overrides} {settings : FileSettings}
    (restated : Overrides.Restated settings overrides fuller) :
    resolve fuller settings = resolve overrides settings := by
  have spans : fuller.showSpans.getD settings.output.showSpans =
      overrides.showSpans.getD settings.output.showSpans := by
    rcases restated.showSpans with same | ⟨left, given⟩
    · rw [same]
    · rw [left, given, Option.getD_some, Option.getD_none]
  simp only [resolve]
  rw [restated.format.override_eq, restated.logLevel.override_eq, restated.lexerLogLevel.override_eq,
    restated.logFormat, restated.logFile, spans]

/-- Options are refused for the first unknown name, and without one they are settled field by field.
So what the settings say beneath an override makes no difference, and neither does asking for what
they say. -/
theorem resolve_by_layers (overrides : Overrides) (settings : FileSettings) :
    (∀ problem, resolve overrides settings = .error problem ↔
      overrides.problems.head? = some problem) ∧
    (∀ options, resolve overrides settings = .ok options ↔
      overrides.problems = [] ∧ options = overrides.onTopOf settings) ∧
    (∀ other, overrides.SameBeneath settings other →
      resolve overrides settings = resolve overrides other) ∧
    ∀ fuller, Overrides.Restated settings overrides fuller →
      resolve fuller settings = resolve overrides settings :=
  ⟨fun _ => resolve_eq_error_iff, fun _ => resolve_eq_ok_iff, fun _ => resolve_eq_of_sameBeneath,
    fun _ => resolve_eq_of_restated⟩

/-- A format that is asked for hides the one in the settings, and a level may be asked for again. -/
theorem resolve_of_hidden_format :
    resolve { format := some "JSON" } { (default : FileSettings) with output := ⟨.lines, true⟩ } =
        resolve { format := some "JSON" } { (default : FileSettings) with output := ⟨.plain, true⟩ } ∧
      resolve { logLevel := some "warn" } { (default : FileSettings) with logLevel := some .warn } =
        resolve {} { (default : FileSettings) with logLevel := some .warn } :=
  ⟨(resolve_by_layers _ _).2.2.1 _
      { format := nofun, showSpans := fun _ => rfl, logLevel := fun _ => rfl,
        lexerLogLevel := fun _ => rfl },
    (resolve_by_layers _ _).2.2.2 _
      { format := .inl rfl, showSpans := .inl rfl
        logLevel := .inr ⟨rfl, "warn", rfl, by decide⟩
        lexerLogLevel := .inl rfl, logFormat := rfl, logFile := rfl }⟩

/-- The format is looked up before the level. -/
example : resolve { logLevel := some "loud", format := some "xml" } default =
    .error (.unknownFormat "xml") := by
  rfl

end RunOptions

end TokenStream
