import TokenStream.Token
import TokenStream.Settings.File

namespace TokenStream

def Position.written (position : Position) : List Char :=
  Json.writeNumber position.line ++ ':' :: Json.writeNumber position.column

namespace Token

/-- The text, with its place behind an at sign where places are shown. -/
def plainText (showSpans : Bool) (token : Token) : List Char :=
  if showSpans then token.text ++ '@' :: token.start.written else token.text

/-- The text, with its place and its kind in front where places are shown. -/
def lineText (showSpans : Bool) (token : Token) : List Char :=
  if showSpans then
    token.start.written ++ '\t' :: token.kind.name.toList ++ '\t' :: token.text
  else token.text

def toJson (token : Token) : Json.Value :=
  .object
    [("column", .number token.start.column),
     ("end", .number token.span.stop.offset),
     ("kind", .string token.kind.name.toList),
     ("line", .number token.start.line),
     ("start", .number token.start.offset),
     ("text", .string token.text)]

end Token

/-- Tokens on one line with blanks between them, on lines of their own, or as a JSON array of
objects, which always holds the places. -/
def render (settings : OutputSettings) (tokens : List Token) : List Char :=
  match settings.format with
  | .plain => List.intercalate [' '] (tokens.map (Token.plainText settings.showSpans))
  | .lines => List.intercalate ['\n'] (tokens.map (Token.lineText settings.showSpans))
  | .json => (Json.Value.array (tokens.map Token.toJson)).write Json.indented 0

end TokenStream
