import TokenStream.Files
import TokenStream.Json.Failure

namespace TokenStream

inductive Problem where
  | inputUnreadable (path : String) (cause : FileError)
  | standardInputUnreadable (cause : FileError)
  | settingsUnreadable (path : String) (cause : FileError)
  | settingsMalformed (path : String) (cause : Json.Error)
  | unknownLogLevel (name : String)
  | unknownFormat (name : String)
  | unknownLogFormat (name : String)
  | logUnusable (path : String) (cause : FileError)
  | jsonUnencodable (cause : Json.Error)
  | outputUnwritable (cause : FileError)
deriving Repr, DecidableEq

namespace Problem

def between (name : String) : String :=
  "'" ++ name ++ "'"

def message : Problem → String
  | .inputUnreadable path cause =>
      "Cannot read input file " ++ between path ++ ": " ++ cause.message
  | .standardInputUnreadable cause => "Cannot read stdin: " ++ cause.message
  | .settingsUnreadable path cause =>
      "Cannot read config " ++ between path ++ ": " ++ cause.message
  | .settingsMalformed path cause =>
      "Failed to parse config " ++ between path ++ ": " ++ cause.message
  | .unknownLogLevel name => "Unknown log level " ++ between name
  | .unknownFormat name => "Unknown output format " ++ between name
  | .unknownLogFormat name => "Unknown log format " ++ between name
  | .logUnusable path cause => "Cannot open log file " ++ between path ++ ": " ++ cause.message
  | .jsonUnencodable cause => "Failed to encode JSON output: " ++ cause.message
  | .outputUnwritable cause => "Failed to write output: " ++ cause.message

end Problem

end TokenStream
