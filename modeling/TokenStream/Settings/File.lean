import TokenStream.Settings.Names
import TokenStream.Json.Record

namespace TokenStream

structure OutputSettings where
  format : OutputFormat
  showSpans : Bool
deriving Repr, DecidableEq

instance : Inhabited OutputSettings := ⟨{ format := .plain, showSpans := false }⟩

structure FileSettings where
  output : OutputSettings
  logLevel : Option LogLevel
  lexerLogLevel : Option LogLevel
deriving Repr, DecidableEq

instance : Inhabited FileSettings :=
  ⟨{ output := default, logLevel := none, lexerLogLevel := none }⟩

namespace OutputSettings

structure Draft where
  format : Option OutputFormat := none
  showSpans : Option Bool := none

def Draft.finish (draft : Draft) : OutputSettings :=
  { format := draft.format.getD .plain, showSpans := draft.showSpans.getD false }

def fields : List (Json.Field Draft) :=
  [{ name := "format"
     given := fun draft => draft.format.isSome
     read := fun draft => do
       return { draft with format := some (← Json.Reader.choice OutputFormat.names) }
     shrinks := fun _ =>
       (Json.Reader.Shrinks.choice _).bind fun _ => Json.Reader.Shrinks.pure _ },
   { name := "show_spans"
     given := fun draft => draft.showSpans.isSome
     read := fun draft => do
       return { draft with showSpans := some (← Json.Reader.boolean) }
     shrinks := fun _ =>
       Json.Reader.Shrinks.boolean.bind fun _ => Json.Reader.Shrinks.pure _ }]

def reader : Json.Reader OutputSettings := do
  return (← Json.Reader.record "struct OutputConfig" fields {}).finish

theorem reader_shrinks : reader.Shrinks :=
  (Json.Reader.Shrinks.record _ _ _).bind fun _ => Json.Reader.Shrinks.pure _

end OutputSettings

namespace FileSettings

/-- The fields read so far.  A level may have been read as null. -/
structure Draft where
  output : Option OutputSettings := none
  logLevel : Option (Option LogLevel) := none
  lexerLogLevel : Option (Option LogLevel) := none

def Draft.finish (draft : Draft) : FileSettings :=
  { output := draft.output.getD default
    logLevel := draft.logLevel.getD none
    lexerLogLevel := draft.lexerLogLevel.getD none }

def level : Json.Reader (Option LogLevel) :=
  Json.Reader.optional (Json.Reader.choice LogLevel.names)

theorem level_shrinks : level.Shrinks :=
  Json.Reader.Shrinks.optional (Json.Reader.Shrinks.choice _)

def fields : List (Json.Field Draft) :=
  [{ name := "output"
     given := fun draft => draft.output.isSome
     read := fun draft => do
       return { draft with output := some (← OutputSettings.reader) }
     shrinks := fun _ =>
       OutputSettings.reader_shrinks.bind fun _ => Json.Reader.Shrinks.pure _ },
   { name := "log_level"
     given := fun draft => draft.logLevel.isSome
     read := fun draft => do
       return { draft with logLevel := some (← level) }
     shrinks := fun _ => level_shrinks.bind fun _ => Json.Reader.Shrinks.pure _ },
   { name := "lexer_log_level"
     given := fun draft => draft.lexerLogLevel.isSome
     read := fun draft => do
       return { draft with lexerLogLevel := some (← level) }
     shrinks := fun _ => level_shrinks.bind fun _ => Json.Reader.Shrinks.pure _ }]

def reader : Json.Reader FileSettings := do
  return (← Json.Reader.record "struct ToklexConfig" fields {}).finish

def ofJson (text : List Char) : Except Json.Error FileSettings :=
  reader.run text

end FileSettings

end TokenStream
