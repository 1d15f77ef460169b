import TokenStream.Text.WhiteSpace
import TokenStream.Text.DecimalDigit
import TokenStream.Text.Letter

namespace TokenStream

open TokenStream.Text

def isSpecial (c : Char) : Bool :=
  ['(', ')', '{', '}', '[', ']', ';', ','].contains c

def isOperator (c : Char) : Bool :=
  ['+', '-', '*', '/', '=', '<', '>', '!', '&', '|', '^'].contains c

def isIdentifierStart (c : Char) : Bool :=
  isLetter c || c == '_'

def isIdentifierContinue (c : Char) : Bool :=
  isIdentifierStart c || isDecimalDigit c

inductive CharClass where
  | whiteSpace
  | special
  | digit
  | identifierStart
  | operator
  | other
deriving Repr, DecidableEq

/-- The class of a character: the first of the five named sets that contains it. -/
def CharClass.of (c : Char) : CharClass :=
  if isWhiteSpace c then .whiteSpace
  else if isSpecial c then .special
  else if isDecimalDigit c then .digit
  else if isIdentifierStart c then .identifierStart
  else if isOperator c then .operator
  else .other

end TokenStream
