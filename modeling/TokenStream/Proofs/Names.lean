import Mathlib.Data.List.Find
import TokenStream.Proofs.Json.Unambiguity
import TokenStream.Proofs.Layers
import TokenStream.Proofs.LowerCase
import TokenStream.Proofs.Settings

namespace TokenStream

open TokenStream.Journal TokenStream.Json

section

variable {α : Type} {names : List (String × α)} {name : String} {value : α}

/-- Names that no character beyond ASCII is part of, however it is spelt. -/
def PlainNames (names : List (String × α)) : Prop :=
  ∀ known ∈ names, ∀ c ∈ known.1.toList, Text.isPlainSmall c = true

theorem toList_toLower (name : String) : name.toLower.toList = name.toList.map Char.toLower :=
  String.toList_map

theorem findName_eq_some_iff (plain : PlainNames names) (distinct : (names.map (·.1)).Nodup) :
    findName names name = some value ↔ (name.toLower, value) ∈ names := by
  have small (known : String × α) (member : known ∈ names) :
      (known.1.toList == Text.lowerCase name.toList) = (known.1.toList == name.toLower.toList) := by
    rw [Bool.eq_iff_iff, beq_iff_eq, beq_iff_eq, eq_comm, toList_toLower,
      Text.lowerCase_eq_iff (plain known member), eq_comm]
  have found : findName names name =
      (names.find? fun known => known.1.toList == name.toLower.toList).map (·.2) :=
    congrArg (Option.map Prod.snd) (List.find?_congr small)
  rw [found, Option.map_eq_some_iff]
  constructor
  · intro found
    obtain ⟨⟨known, _⟩, found, same⟩ := found
    cases same
    exact ((Reader.find?_name_iff distinct).mp found).2
  · intro member
    exact ⟨_, (Reader.find?_name_iff distinct).mpr ⟨rfl, member⟩, rfl⟩

theorem findName_of_mem (plain : PlainNames names) (distinct : (names.map (·.1)).Nodup)
    (known : (name, value) ∈ names) : findName names name = some value := by
  have small : name.toLower = name := by
    rw [← String.toList_inj, toList_toLower]
    conv_rhs => rw [← List.map_id name.toList]
    exact List.map_congr_left fun c member => Text.toLower_of_isPlainSmall (plain _ known c member)
  rw [findName_eq_some_iff plain distinct, small]
  exact known

theorem isAlpha_of_findName (plain : PlainNames names) (distinct : (names.map (·.1)).Nodup)
    (found : (findName names name).isSome = true) : ∀ c ∈ name.toList, c.isAlpha = true := by
  intro c member
  obtain ⟨value, found⟩ := Option.isSome_iff_exists.mp found
  have known := (findName_eq_some_iff plain distinct).mp found
  have small : Text.isPlainSmall c.toLower = true := by
    apply plain _ known
    rw [toList_toLower]
    exact List.mem_map_of_mem member
  exact Text.isAlpha_of_toLower small

end

theorem OutputFormat.plain_names : PlainNames names ∧ (names.map (·.1)).Nodup := by
  simp [PlainNames, names, Text.isPlainSmall]

theorem LogLevel.plain_names :
    PlainNames (("silent", .error) :: names) ∧ ((("silent", .error) :: names).map (·.1)).Nodup := by
  simp [PlainNames, names, Text.isPlainSmall]

theorem Journal.Style.plain_names : PlainNames names ∧ (names.map (·.1)).Nodup := by
  simp [PlainNames, names, Text.isPlainSmall]

/-- The form is a string that stands for the name. -/
def Json.IsName (form : Form) (name : String) : Prop :=
  ∃ pieces, form = .string pieces ∧ decode? pieces = some name.toList

theorem Json.Chosen.mem_of_isName {choices : List (String × α)} {form : Form} {name : String}
    {value : α} (chosen : Chosen choices form value) (named : IsName form name) :
    (name, value) ∈ choices := by
  obtain ⟨pieces, same, decodes⟩ := named
  subst same
  cases chosen with
  | name decodes' known =>
      have name' := String.toList_inj.mp (Option.some.inj (decodes.symm.trans decodes'))
      rw [name']
      exact known

/-- The two levels that settings and overrides have. -/
inductive LevelField where
  | overall
  | lexer

namespace LevelField

def key : LevelField → String
  | .overall => "log_level"
  | .lexer => "lexer_log_level"

def ofSettings (field : LevelField) (settings : FileSettings) : Option LogLevel :=
  match field with
  | .overall => settings.logLevel
  | .lexer => settings.lexerLogLevel

def putSettings (field : LevelField) (settings : FileSettings) (level : Option LogLevel) :
    FileSettings :=
  match field with
  | .overall => { settings with logLevel := level }
  | .lexer => { settings with lexerLogLevel := level }

def ofOverrides (field : LevelField) (overrides : Overrides) : Option String :=
  match field with
  | .overall => overrides.logLevel
  | .lexer => overrides.lexerLogLevel

def putOverrides (field : LevelField) (overrides : Overrides) (name : String) : Overrides :=
  match field with
  | .overall => { overrides with logLevel := some name }
  | .lexer => { overrides with lexerLogLevel := some name }

/-- A level that is asked for hides the one in the settings. -/
theorem sameBeneath (field : LevelField) (overrides : Overrides) (settings : FileSettings)
    (name : String) (level : Option LogLevel) :
    (field.putOverrides overrides name).SameBeneath (field.putSettings settings level) settings := by
  cases field with
  | overall =>
      exact { format := fun _ => rfl, showSpans := fun _ => rfl, logLevel := nofun,
              lexerLogLevel := fun _ => rfl }
  | lexer =>
      exact { format := fun _ => rfl, showSpans := fun _ => rfl, logLevel := fun _ => rfl,
              lexerLogLevel := nofun }

theorem restated {field : LevelField} {overrides : Overrides} {settings : FileSettings}
    {name : String} {level : LogLevel} (missing : field.ofOverrides overrides = none)
    (parse : LogLevel.parse? name = some level) (given : field.ofSettings settings = some level) :
    Overrides.Restated settings overrides (field.putOverrides overrides name) := by
  have known : (LogLevel.parse? name).map some = some (field.ofSettings settings) := by
    rw [parse, given, Option.map_some]
  cases field with
  | overall =>
      exact { format := .inl rfl, showSpans := .inl rfl
              logLevel := .inr ⟨missing, name, rfl, known⟩
              lexerLogLevel := .inl rfl, logFormat := rfl, logFile := rfl }
  | lexer =>
      exact { format := .inl rfl, showSpans := .inl rfl, logLevel := .inl rfl
              lexerLogLevel := .inr ⟨missing, name, rfl, known⟩
              logFormat := rfl, logFile := rfl }

end LevelField

namespace FileSettings

/-- In the output of the settings the format is given as a string that stands for the name. -/
def GivesFormat (form : Form) (name : String) : Prop :=
  ∃ output format, Binds ["output", "log_level", "lexer_log_level"] form "output" output ∧
    Binds ["format", "show_spans"] output "format" format ∧ IsName format name

/-- In the settings the level of that field is given as a string that stands for the name. -/
def GivesLevel (field : LevelField) (form : Form) (name : String) : Prop :=
  ∃ level, Binds ["output", "log_level", "lexer_log_level"] form field.key level ∧
    IsName level name

variable {form : Form} {settings : FileSettings} {name : String}

theorem mem_names_of_givesFormat (written : Written form settings)
    (gives : GivesFormat form name) : (name, settings.output.format) ∈ OutputFormat.names := by
  obtain ⟨outputForm, formatForm, bindsOutput, bindsFormat, named⟩ := gives
  cases written with
  | mk binds output =>
      obtain ⟨outputSettings, same, writtenOutput⟩ := bindsOutput.stands binds output
      subst same
      cases writtenOutput with
      | mk binds' format =>
          obtain ⟨value, same, chosen⟩ := bindsFormat.stands binds' format
          subst same
          exact chosen.mem_of_isName named

theorem mem_names_of_nullable {level? : Option LogLevel}
    (stands : Nullable (Chosen LogLevel.names) form level?) (named : IsName form name) :
    ∃ level, level? = some level ∧ (name, level) ∈ LogLevel.names := by
  cases stands with
  | null =>
      obtain ⟨_, other, _⟩ := named
      cases other
  | value chosen => exact ⟨_, rfl, chosen.mem_of_isName named⟩

theorem mem_names_of_givesLevel {field : LevelField} (written : Written form settings)
    (gives : GivesLevel field form name) :
    ∃ level, field.ofSettings settings = some level ∧ (name, level) ∈ LogLevel.names := by
  obtain ⟨_, bindsLevel, named⟩ := gives
  cases written with
  | mk binds _ logLevel lexerLogLevel =>
      cases field with
      | overall =>
          obtain ⟨level?, same, stands⟩ := bindsLevel.stands binds logLevel
          subst same
          exact mem_names_of_nullable stands named
      | lexer =>
          obtain ⟨level?, same, stands⟩ := bindsLevel.stands binds lexerLogLevel
          subst same
          exact mem_names_of_nullable stands named

end FileSettings

namespace FileSettings

/-- As a flag, over any format in a file, the name asks for the format that the settings have. -/
structure FormatAgrees (settings : FileSettings) (name : String) : Prop where
  parse : OutputFormat.parse? name = some settings.output.format
  resolve : ∀ overrides format, overrides.format = none →
    RunOptions.resolve { overrides with format := some name }
        { settings with output := { settings.output with format } } =
      RunOptions.resolve overrides settings

/-- As a flag, over any level in a file, the name asks for the level that the settings have. -/
structure LevelAgrees (field : LevelField) (settings : FileSettings) (name : String) : Prop where
  parse : ∃ level, LogLevel.parse? name = some level ∧ field.ofSettings settings = some level
  resolve : ∀ overrides level, field.ofOverrides overrides = none →
    RunOptions.resolve (field.putOverrides overrides name) (field.putSettings settings level) =
      RunOptions.resolve overrides settings

variable {settings : FileSettings} {name : String}

theorem formatAgrees (known : (name, settings.output.format) ∈ OutputFormat.names) :
    FormatAgrees settings name := by
  have parse : OutputFormat.parse? name = some settings.output.format :=
    findName_of_mem OutputFormat.plain_names.1 OutputFormat.plain_names.2 known
  refine ⟨parse, fun overrides format missing => ?_⟩
  -- The flag hides the format of the file, and over the settings it asks for what they say.
  have hidden : Overrides.SameBeneath { overrides with format := some name }
      { settings with output := { settings.output with format } } settings :=
    { format := nofun, showSpans := fun _ => rfl, logLevel := fun _ => rfl,
      lexerLogLevel := fun _ => rfl }
  have restated : Overrides.Restated settings overrides { overrides with format := some name } :=
    { format := .inr ⟨missing, name, rfl, parse⟩, showSpans := .inl rfl, logLevel := .inl rfl,
      lexerLogLevel := .inl rfl, logFormat := rfl, logFile := rfl }
  exact (RunOptions.resolve_eq_of_sameBeneath hidden).trans
    (RunOptions.resolve_eq_of_restated restated)

theorem levelAgrees {field : LevelField} {level : LogLevel}
    (given : field.ofSettings settings = some level) (known : (name, level) ∈ LogLevel.names) :
    LevelAgrees field settings name := by
  have parse : LogLevel.parse? name = some level :=
    findName_of_mem LogLevel.plain_names.1 LogLevel.plain_names.2 (List.mem_cons_of_mem _ known)
  refine ⟨⟨level, parse, given⟩, fun overrides level' missing => ?_⟩
  exact (RunOptions.resolve_eq_of_sameBeneath (field.sameBeneath overrides settings name level')).trans
    (RunOptions.resolve_eq_of_restated (LevelField.restated missing parse given))

end FileSettings

open FileSettings in
/-- A name is known on the command line just if it is one when its ASCII capitals are made small, and
then it is made of ASCII letters.  A name that is read from a file is known on the command line for
the same thing, so that it makes no difference which of the two it is given in. -/
theorem names_mean_the_same (name : String) :
    ((∀ format, OutputFormat.parse? name = some format ↔
        (name.toLower, format) ∈ OutputFormat.names) ∧
      (∀ level, LogLevel.parse? name = some level ↔
        (name.toLower, level) ∈ ("silent", LogLevel.error) :: LogLevel.names) ∧
      ∀ style, Style.parse? name = some style ↔ (name.toLower, style) ∈ Style.names) ∧
    ((OutputFormat.parse? name).isSome = true ∨ (LogLevel.parse? name).isSome = true ∨
        (Style.parse? name).isSome = true → ∀ c ∈ name.toList, c.isAlpha = true) ∧
    ∀ text settings form, ofJson text = .ok settings → Spelt.Document text form →
      (GivesFormat form name → FormatAgrees settings name) ∧
      ∀ field, GivesLevel field form name → LevelAgrees field settings name := by
  obtain ⟨plainFormats, distinctFormats⟩ := OutputFormat.plain_names
  obtain ⟨plainLevels, distinctLevels⟩ := LogLevel.plain_names
  obtain ⟨plainStyles, distinctStyles⟩ := Style.plain_names
  refine ⟨⟨fun _ => findName_eq_some_iff plainFormats distinctFormats,
    fun _ => findName_eq_some_iff plainLevels distinctLevels,
    fun _ => findName_eq_some_iff plainStyles distinctStyles⟩, ?_, ?_⟩
  · intro found
    obtain found | found | found := found
    · exact isAlpha_of_findName plainFormats distinctFormats found
    · exact isAlpha_of_findName plainLevels distinctLevels found
    · exact isAlpha_of_findName plainStyles distinctStyles found
  · intro text settings form read spelt
    obtain ⟨form', spelt', written⟩ := (Reader.run_eq_ok_iff accepts_reader).mp read
    rw [← spelt.unique spelt'] at written
    refine ⟨fun gives => formatAgrees (mem_names_of_givesFormat written gives), ?_⟩
    intro field gives
    obtain ⟨level, given, known⟩ := mem_names_of_givesLevel written gives
    exact levelAgrees given known

/-- The format in a list of settings, asked for over settings that are left out. -/
theorem json_means_the_same :
    OutputFormat.parse? "JSON" = some .json ∧
      RunOptions.resolve { format := some "json" } default =
        RunOptions.resolve {} { (default : FileSettings) with output := ⟨.json, false⟩ } := by
  let pieces : List Piece := [.character 'j', .character 's', .character 'o', .character 'n']
  let form : Form := .array [.array [.string pieces]]
  have pieces_spelt (rest : List Char) :
      Spelt.Pieces ('j' :: 's' :: 'o' :: 'n' :: '"' :: rest) pieces rest := by
    repeat refine .plain (by decide) (by decide) (by decide) ?_
    exact .close
  have spelt : Spelt.Document "[[\"json\"]]".toList form :=
    ⟨[], .array (.last (.array (.last (.string (pieces_spelt _)) rfl)) rfl), rfl⟩
  have chosen : Chosen OutputFormat.names (.string pieces) OutputFormat.json :=
    .name (by rfl : decode? pieces = some "json".toList) (by decide)
  have fits : Bindings ["format", "show_spans"] (.array [.string pieces]) [("format", .string pieces)] :=
    .array (by decide)
  have fits' : Bindings ["output", "log_level", "lexer_log_level"] form
      [("output", .array [.string pieces])] := .array (by decide)
  have output : OutputSettings.Written (.array [.string pieces]) ⟨.json, false⟩ :=
    .mk fits (.once chosen) .absent
  have written : FileSettings.Written form { (default : FileSettings) with output := ⟨.json, false⟩ } :=
    .mk fits' (.once output) .absent .absent
  have read := (Reader.run_eq_ok_iff FileSettings.accepts_reader).mpr ⟨form, spelt, written⟩
  have gives : FileSettings.GivesFormat form "json" :=
    ⟨.array [.string pieces], .string pieces, ⟨_, fits', by simp [bound]⟩,
      ⟨_, fits, by simp [bound]⟩, ⟨pieces, rfl, rfl⟩⟩
  have known : ("JSON".toLower, OutputFormat.json) ∈ OutputFormat.names := by
    have small : "JSON".toLower = "json" :=
      String.toList_inj.mp ((toList_toLower "JSON").trans rfl)
    rw [small]
    decide
  have agrees := ((names_mean_the_same "json").2.2 _ _ _ read spelt).1 gives
  exact ⟨((names_mean_the_same "JSON").1.1 .json).mpr known, agrees.resolve {} .plain rfl⟩

end TokenStream
