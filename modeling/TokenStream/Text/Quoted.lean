import TokenStream.Text.Printable

namespace TokenStream.Text

/-- A code point in lower-case hexadecimal, without leading zeros. -/
def hexDigits (code : Nat) : List Char :=
  Nat.toDigits 16 code

/-- A character between the marks.  Marks and backslashes are escaped, and so is every character that
is not printable. -/
def escapeChar (c : Char) : List Char :=
  match c with
  | '\x00' => ['\\', '0']
  | '\t' => ['\\', 't']
  | '\n' => ['\\', 'n']
  | '\r' => ['\\', 'r']
  | '\\' => ['\\', '\\']
  | '"' => ['\\', '"']
  | _ =>
      if isPrintable c then [c]
      else ['\\', 'u', '{'] ++ hexDigits c.toNat ++ ['}']

def quoted (text : List Char) : List Char :=
  '"' :: text.flatMap escapeChar ++ ['"']

end TokenStream.Text
