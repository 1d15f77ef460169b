import TokenStream.CharClass
import TokenStream.Token

namespace TokenStream

open TokenStream.Text

/-- The kind of token that a character of the class starts. -/
def TokenKind.startedBy : CharClass → TokenKind
  | .special => .special
  | .digit => .number
  | .identifierStart => .identifier
  | .operator => .operator
  | .whiteSpace | .other => .other

/-- Whether a token of the kind goes on with the character. -/
def TokenKind.continuesWith : TokenKind → Char → Bool
  | .number => isDecimalDigit
  | .identifier => isIdentifierContinue
  | .operator => isOperator
  | .special | .other | .endOfInput => fun _ => false

structure Scanner where
  input : List Char
  position : Position
  rest : List Char
deriving Repr, DecidableEq

namespace Scanner

def ofText (text : List Char) : Scanner :=
  { input := text, position := Position.start, rest := text }

/-- A scanner that starts at a byte offset of the text; see `Position.ofOffset` for where that is. -/
def resume (text : List Char) (offset : Nat) : Scanner :=
  let (before, rest) := splitAtByte offset text
  { input := text, position := Position.atEndOf before, rest := rest }

def offset (scanner : Scanner) : Nat :=
  scanner.position.offset

/-- The scanner after the longest run of characters that satisfy the predicate. -/
def pass (scanner : Scanner) (p : Char → Bool) : Scanner :=
  { scanner with
    position := scanner.position.walk (scanner.rest.takeWhile p)
    rest := scanner.rest.dropWhile p }

/-- The token that starts with `c` at the scanner's place, when `after` follows, and the scanner
behind it. -/
def take (scanner : Scanner) (c : Char) (after : List Char) : Token × Scanner :=
  let kind := TokenKind.startedBy (CharClass.of c)
  let text := c :: after.takeWhile kind.continuesWith
  let stop := scanner.position.walk text
  ({ kind, text, span := { start := scanner.position, stop } },
    { scanner with position := stop, rest := after.dropWhile kind.continuesWith })

def next (scanner : Scanner) : Token × Scanner :=
  let ahead := scanner.pass isWhiteSpace
  match ahead.rest with
  | [] => (Token.endAt ahead.position, ahead)
  | c :: after => ahead.take c after

theorem length_dropWhile_le (p : Char → Bool) (text : List Char) :
    (text.dropWhile p).length ≤ text.length :=
  (List.dropWhile_suffix p).length_le

theorem next_rest_le (scanner : Scanner) :
    scanner.next.2.rest.length ≤ scanner.rest.length := by
  have skipped := length_dropWhile_le isWhiteSpace scanner.rest
  change (scanner.pass isWhiteSpace).rest.length ≤ _ at skipped
  cases found : (scanner.pass isWhiteSpace).rest with
  | nil =>
      rw [found] at skipped
      simp only [next, found]
      exact skipped
  | cons c after =>
      have taken := length_dropWhile_le
        (TokenKind.startedBy (CharClass.of c)).continuesWith after
      simp only [found, List.length_cons] at skipped
      simp only [next, found, take]
      omega

theorem next_rest_lt (scanner : Scanner) (more : scanner.next.1.isEnd = false) :
    scanner.next.2.rest.length < scanner.rest.length := by
  have skipped := length_dropWhile_le isWhiteSpace scanner.rest
  change (scanner.pass isWhiteSpace).rest.length ≤ _ at skipped
  cases found : (scanner.pass isWhiteSpace).rest with
  | nil => simp [next, found] at more
  | cons c after =>
      have taken := length_dropWhile_le
        (TokenKind.startedBy (CharClass.of c)).continuesWith after
      simp only [found, List.length_cons] at skipped
      simp only [next, found, take]
      omega

def tokens (scanner : Scanner) : List Token :=
  if scanner.next.1.isEnd then []
  else scanner.next.1 :: tokens scanner.next.2
termination_by scanner.rest.length
decreasing_by
  exact next_rest_lt scanner (by simpa using ‹¬scanner.next.1.isEnd = true›)

end Scanner

/-- The token at or after a byte offset of a text, and the offset behind it. -/
def nextToken (text : List Char) (offset : Nat) : Token × Nat :=
  let (token, scanner) := (Scanner.resume text offset).next
  (token, scanner.offset)

end TokenStream
