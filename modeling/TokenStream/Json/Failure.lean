namespace TokenStream.Json

inductive Cause where
  | valueMissing
  | objectOpen
  | arrayOpen
  | stringOpen
  | noValue
  | noWord
  | noColon
  | noCommaOrBrace
  | noCommaOrBracket
  | nameNotString
  | commaBeforeEnd
  | textAfterEnd
  | malformedNumber
  | numberTooLarge
  | malformedEscape
  | halfEscape
  | loneSurrogate
  | controlInString
  | wrongType (found expected : String)
  | unknownChoice (found : String) (choices : List String)
  | repeatedField (name : String)
deriving Repr, DecidableEq

/-- What kind of fault a cause is: the text stops too early, it is no JSON, or it is JSON for
something else. -/
inductive Category where
  | incomplete
  | malformed
  | unfitting
deriving Repr, DecidableEq

namespace Cause

def category : Cause → Category
  | .valueMissing | .objectOpen | .arrayOpen | .stringOpen => .incomplete
  | .wrongType .. | .unknownChoice .. | .repeatedField .. => .unfitting
  | _ => .malformed

def backquoted (name : String) : String :=
  "`" ++ name ++ "`"

def message : Cause → String
  | .valueMissing => "EOF while parsing a value"
  | .objectOpen => "EOF while parsing an object"
  | .arrayOpen => "EOF while parsing a list"
  | .stringOpen => "EOF while parsing a string"
  | .noValue => "expected value"
  | .noWord => "expected ident"
  | .noColon => "expected `:`"
  | .noCommaOrBrace => "expected `,` or `" ++ "\x7d" ++ "`"
  | .noCommaOrBracket => "expected `,` or `]`"
  | .nameNotString => "key must be a string"
  | .commaBeforeEnd => "trailing comma"
  | .textAfterEnd => "trailing characters"
  | .malformedNumber => "invalid number"
  | .numberTooLarge => "number out of range"
  | .malformedEscape => "invalid escape"
  | .halfEscape => "unexpected end of hex escape"
  | .loneSurrogate => "lone leading surrogate in hex escape"
  | .controlInString => "control character (\\u0000-\\u001F) found while parsing a string"
  | .wrongType found expected => "invalid type: " ++ found ++ ", expected " ++ expected
  | .unknownChoice found choices =>
      "unknown variant " ++ backquoted found ++ ", expected one of " ++
        ", ".intercalate (choices.map backquoted)
  | .repeatedField name => "duplicate field " ++ backquoted name

end Cause

/-- A line, counted from one, and the bytes in front on that line. -/
structure Mark where
  line : Nat
  column : Nat
deriving Repr, DecidableEq

namespace Mark

def start : Mark :=
  { line := 1, column := 0 }

def advance (mark : Mark) (c : Char) : Mark :=
  if c = '\n' then { line := mark.line + 1, column := 0 }
  else { mark with column := mark.column + c.utf8Size }

/-- The mark a number of bytes further on, which may be inside a character, but not past the end
of the text. -/
def advanceBytes (mark : Mark) : Nat → List Char → Mark
  | 0, _ => mark
  | _ + 1, [] => mark
  | count + 1, c :: text =>
      if count + 1 < c.utf8Size then { mark with column := mark.column + (count + 1) }
      else (mark.advance c).advanceBytes (count + 1 - c.utf8Size) text

end Mark

/-- A fault found while reading: the text from there on, and how many of its bytes belong to the
place that is reported. -/
structure Failure where
  cause : Cause
  rest : List Char
  seen : Nat
deriving Repr, DecidableEq

structure Error where
  cause : Cause
  mark : Mark
deriving Repr, DecidableEq

def Failure.locate (text : List Char) (failure : Failure) : Error :=
  let before := text.take (text.length - failure.rest.length)
  { cause := failure.cause
    mark := (before.foldl Mark.advance Mark.start).advanceBytes failure.seen failure.rest }

def Error.message (error : Error) : String :=
  error.cause.message ++ " at line " ++ toString error.mark.line ++
    " column " ++ toString error.mark.column

end TokenStream.Json
