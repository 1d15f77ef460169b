import TokenStream.Position

namespace TokenStream

inductive TokenKind where
  | special
  | number
  | identifier
  | operator
  | other
  | endOfInput
deriving Repr, DecidableEq

def TokenKind.name : TokenKind → String
  | .special => "special"
  | .number => "number"
  | .identifier => "identifier"
  | .operator => "operator"
  | .other => "other"
  | .endOfInput => "end"

structure Token where
  kind : TokenKind
  text : List Char
  span : Span
deriving Repr, DecidableEq

namespace Token

/-- The token that stands for the end of the input: no text and an empty span. -/
def endAt (position : Position) : Token :=
  { kind := .endOfInput, text := [], span := Span.point position }

def isEnd (token : Token) : Bool :=
  token.kind == .endOfInput

@[simp]
theorem isEnd_endAt (position : Position) : (endAt position).isEnd = true := rfl

def start (token : Token) : Position :=
  token.span.start

end Token

end TokenStream
