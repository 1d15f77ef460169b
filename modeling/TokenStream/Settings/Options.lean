import TokenStream.Settings.File
import TokenStream.Settings.Problem
import TokenStream.Journal.Filter

namespace TokenStream

open TokenStream.Journal

structure Overrides where
  format : Option String := none
  showSpans : Option Bool := none
  logLevel : Option String := none
  lexerLogLevel : Option String := none
  logFormat : Option String := none
  logFile : Option String := none
deriving Repr, DecidableEq

structure RunOptions where
  output : OutputSettings
  levels : Levels
  logStyle : Style
  logFile : Option String
deriving Repr, DecidableEq

/-- The value of a name from the command line, or what holds without one. -/
def override (parse? : String → Option α) (unknown : String → Problem)
    (written : Option String) (otherwise : α) : Except Problem α :=
  match written with
  | none => .ok otherwise
  | some name =>
      match parse? name with
      | some value => .ok value
      | none => .error (unknown name)

namespace RunOptions

/-- Names are looked up in the order format, level, lexer level, log format, and the first unknown
one is reported. -/
def resolve (overrides : Overrides) (settings : FileSettings) : Except Problem RunOptions := do
  let format ← override OutputFormat.parse? .unknownFormat overrides.format settings.output.format
  let level (name : String) := (LogLevel.parse? name).map some
  let overall ← override level .unknownLogLevel overrides.logLevel settings.logLevel
  let lexer ← override level .unknownLogLevel overrides.lexerLogLevel settings.lexerLogLevel
  let logStyle ← override Style.parse? .unknownLogFormat overrides.logFormat .compact
  return {
    output :=
      { format, showSpans := overrides.showSpans.getD settings.output.showSpans }
    levels :=
      { overall := (overall.map LogLevel.level).getD Levels.standard.overall
        lexer := lexer.map LogLevel.level }
    logStyle
    logFile := overrides.logFile }

/-- A name followed by named values in braces. -/
def listing (name : String) (values : List (String × String)) : String :=
  name ++ " \x7b " ++ ", ".intercalate (values.map fun (key, value) => key ++ ": " ++ value) ++
    " \x7d"

def optionText : Option String → String
  | none => "None"
  | some text => "Some(" ++ text ++ ")"

def formatText : OutputFormat → String
  | .plain => "Plain"
  | .lines => "Lines"
  | .json => "Json"

def levelText (level : Level) : String :=
  "Level(" ++ level.name.capitalize ++ ")"

def styleText : Style → String
  | .pretty => "Pretty"
  | .compact => "Compact"
  | .json => "Json"

def describe (options : RunOptions) : String :=
  let path (written : String) := String.ofList (Text.quoted written.toList)
  listing "RunOptions"
    [("output", listing "OutputConfig"
        [("format", formatText options.output.format),
         ("show_spans", toString options.output.showSpans)]),
     ("log", listing "LogConfig"
        [("global", levelText options.levels.overall),
         ("lexer", optionText (options.levels.lexer.map levelText))]),
     ("log_format", styleText options.logStyle),
     ("log_file", optionText (options.logFile.map path))]

end RunOptions

end TokenStream
