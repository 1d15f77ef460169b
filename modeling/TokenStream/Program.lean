import TokenStream.Arguments
import TokenStream.Cursor
import TokenStream.Render
import TokenStream.Journal.Filter

namespace TokenStream

open TokenStream.Journal

/-- What a run finds around it. -/
structure Surroundings where
  files : Files
  standardInput : ByteArray
  /-- The time that the journal notes. -/
  time : String
  /-- The words in which a line of arguments is refused. -/
  complaint : List String → Refusal → String

structure Result where
  exitCode : Nat
  output : List Char
  errors : List Char
  files : Files

def defaultSettingsFile : String := "toklex.json"

/-- The settings in the named file.  The default file may be missing. -/
def loadSettings (files : Files) (named : Option String) : Except Problem FileSettings :=
  match named with
  | some path => load path
  | none => if files.contains defaultSettingsFile then load defaultSettingsFile else .ok default
where
  load (path : String) : Except Problem FileSettings :=
    match files.readText path with
    | .error cause => .error (.settingsUnreadable path cause)
    | .ok text =>
        match FileSettings.ofJson text with
        | .error cause => .error (.settingsMalformed path cause)
        | .ok settings => .ok settings

def readInputFile (files : Files) (path : String) : Except Problem (List Char) :=
  match files.readText path with
  | .error cause => .error (.inputUnreadable path cause)
  | .ok text => .ok text

/-- The text to be taken apart: from the file that is named, or from standard input. -/
def readInput (files : Files) (standardInput : ByteArray) (invocation : Invocation) :
    Except Problem (List Char) :=
  match invocation.inputFile? with
  | some path => readInputFile files path
  | none =>
      match decodeText standardInput with
      | .error cause => .error (.standardInputUnreadable cause)
      | .ok text => .ok text

/-- A journal under way. -/
structure Log where
  options : RunOptions
  time : String
  /-- What has been written on standard error. -/
  written : List Char
  /-- What has been written on standard output, where the journal's file leads there. -/
  printed : List Char
  files : Files
  file : Option Place

namespace Log

def start (options : RunOptions) (time : String) (files : Files) : Except Problem Log :=
  match options.logFile with
  | none => .ok { options, time, written := [], printed := [], files, file := none }
  | some path =>
      match files.openToAppend path with
      | .error cause => .error (.logUnusable path cause)
      | .ok (files, place) =>
          .ok { options, time, written := [], printed := [], files, file := some place }

/-- The device that the journal is kept on, if it is no file. -/
def sink? (log : Log) : Option Sink :=
  log.file.bind log.files.sink?

/-- The lines for the journal's file, where that is a device of the kind. -/
def linesFor (log : Log) (sink : Sink) (events : List Event) : List Char :=
  if log.sink? = some sink then events.flatMap (Event.fileLine log.time) else []

/-- The journal with more events.  Each one is written on standard error first, and to the file after
that. -/
def record (log : Log) (events : List Event) : Log :=
  let kept := (Filter.ofLevels log.options.levels).select events
  { log with
    written := log.written ++ kept.flatMap fun event =>
      event.write log.options.logStyle log.time ++ log.linesFor .errors [event]
    printed := log.printed ++ log.linesFor .output kept
    files :=
      match log.file with
      | none => log.files
      | some place => log.files.append place (kept.flatMap (Event.fileLine log.time)) }

end Log

def optionsEvent (options : RunOptions) : Event :=
  { level := .debug, target := programTarget, message := "Resolved run options",
    fields := [("options", .words options.describe)] }

def inputEvent (text : List Char) : Event :=
  { level := .info, target := programTarget, message := "Tokenizing input",
    fields := [("bytes", .number (Text.byteLength text))] }

def tokensEvent (tokens : List Token) : Event :=
  { level := .info, target := programTarget, message := "Tokenized",
    fields := [("count", .number tokens.length)] }

def tokenizeWithEvents (text : List Char) : List Event × List Token :=
  let collected := (Cursor.ofText text).collect
  (inputEvent text :: Cursor.openingEvents text ++ collected.events ++
    [tokensEvent collected.value], collected.value)

/-- The end of a run that has failed: a message behind what has been printed and written. -/
def failed (printed written : List Char) (files : Files) (problem : Problem) : Result :=
  { exitCode := 1
    output := printed
    errors := written ++ ("Error: " ++ problem.message ++ "\n").toList
    files }

def prepare (invocation : Invocation) (files : Files) : Except Problem RunOptions := do
  RunOptions.resolve invocation.overrides (← loadSettings files invocation.config)

namespace Invocation

def run (invocation : Invocation) (surroundings : Surroundings) : Result :=
  match prepare invocation surroundings.files with
  | .error problem => failed [] [] surroundings.files problem
  | .ok options =>
      match Log.start options surroundings.time surroundings.files with
      | .error problem => failed [] [] surroundings.files problem
      | .ok log =>
          let log := log.record [optionsEvent options]
          match readInput log.files surroundings.standardInput invocation with
          | .error problem => failed log.printed log.written log.files problem
          | .ok text =>
              let (events, tokens) := tokenizeWithEvents text
              let log := log.record events
              { exitCode := 0
                output := log.printed ++ render options.output tokens ++ ['\n']
                errors := log.written
                files := log.files }

end Invocation

namespace Refusal

/-- The code that a refused command line exits with: help and version are no faults. -/
def exitCode : Refusal → Nat
  | .help | .version => 0
  | _ => 2

/-- The end of a run whose arguments are refused: with the text that was asked for, or a complaint. -/
def result (refusal : Refusal) (arguments : List String) (surroundings : Surroundings) : Result :=
  let (output, errors) :=
    match refusal with
    | .help => (helpText, "")
    | .version => (versionText, "")
    | fault => ("", surroundings.complaint arguments fault)
  { exitCode := refusal.exitCode
    output := output.toList
    errors := errors.toList
    files := surroundings.files }

end Refusal

def run (arguments : List String) (surroundings : Surroundings) : Result :=
  match Invocation.ofArguments arguments with
  | .ok invocation => invocation.run surroundings
  | .error refusal => refusal.result arguments surroundings

end TokenStream
