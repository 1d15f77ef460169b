import TokenStream.Json.Reader
import TokenStream.Text.Bytes

namespace TokenStream.Json

/-- A fault in a text that has been taken apart by hand. -/
def failAt (cause : Cause) (rest : List Char) (seen : Nat) : Except Failure α :=
  .error { cause, rest, seen }

def hexValue (c : Char) : Option Nat :=
  if '0' ≤ c ∧ c ≤ '9' then some (c.toNat - '0'.toNat)
  else if 'a' ≤ c ∧ c ≤ 'f' then some (c.toNat - 'a'.toNat + 10)
  else if 'A' ≤ c ∧ c ≤ 'F' then some (c.toNat - 'A'.toNat + 10)
  else none

/-- The number in the four characters, if they are hexadecimal digits. -/
def fourHex (a b c d : Char) : Option Nat := do
  let high := (← hexValue a) * 16 + (← hexValue b)
  let low := (← hexValue c) * 16 + (← hexValue d)
  return high * 256 + low

/-- Takes four hexadecimal digits.  A fault is reported behind the four bytes, or at the end when
there are fewer. -/
def codeUnit (text : List Char) : Except Failure (Nat × List Char) :=
  match text with
  | a :: b :: c :: d :: rest =>
      match fourHex a b c d with
      | some unit => .ok (unit, rest)
      | none => failAt .malformedEscape text 4
  | _ =>
      if Text.byteLength text < 4 then failAt .stringOpen [] 0
      else failAt .malformedEscape text 4

/-- The character that a backslash in front of another one stands for. -/
def plainEscape (c : Char) : Option Char :=
  match c with
  | '"' => some '"'
  | '\\' => some '\\'
  | '/' => some '/'
  | 'b' => some '\x08'
  | 'f' => some '\x0c'
  | 'n' => some '\n'
  | 'r' => some '\r'
  | 't' => some '\t'
  | _ => none

def isHighSurrogate (unit : Nat) : Bool :=
  0xD800 ≤ unit && unit ≤ 0xDBFF

def isLowSurrogate (unit : Nat) : Bool :=
  0xDC00 ≤ unit && unit ≤ 0xDFFF

/-- Takes the second half of a character that is written as two escapes. -/
def secondHalf (high : Nat) (text : List Char) : Except Failure (Char × List Char) :=
  match text with
  | [] => failAt .stringOpen [] 0
  | '\\' :: [] => failAt .stringOpen [] 0
  | '\\' :: 'u' :: digits => do
      let (low, rest) ← codeUnit digits
      if isLowSurrogate low then
        return (Char.ofNat (0x10000 + (high - 0xD800) * 0x400 + (low - 0xDC00)), rest)
      else failAt .loneSurrogate rest 0
  | '\\' :: rest => failAt .halfEscape rest 1
  | _ => failAt .halfEscape text 1

/-- Takes an escape, from behind its backslash. -/
def escape (text : List Char) : Except Failure (Char × List Char) :=
  match text with
  | [] => failAt .stringOpen [] 0
  | 'u' :: digits => do
      let (unit, rest) ← codeUnit digits
      if isLowSurrogate unit then failAt .loneSurrogate rest 0
      else if isHighSurrogate unit then secondHalf unit rest
      else return (Char.ofNat unit, rest)
  | c :: rest =>
      match plainEscape c with
      | some character => .ok (character, rest)
      | none => failAt .malformedEscape text 1

/-- Passes over an escape, from behind its backslash. -/
def skipEscape (text : List Char) : Except Failure (List Char) :=
  match text with
  | [] => failAt .stringOpen [] 0
  | 'u' :: digits => do
      let (_, rest) ← codeUnit digits
      return rest
  | c :: rest =>
      match plainEscape c with
      | some _ => .ok rest
      | none => failAt .malformedEscape text 1

theorem codeUnit_length {text rest : List Char} {unit : Nat}
    (read : codeUnit text = .ok (unit, rest)) : rest.length ≤ text.length := by
  unfold codeUnit at read
  split at read
  · split at read
    · cases read
      simp only [List.length_cons]
      omega
    · cases read
  · split at read <;> cases read

theorem secondHalf_length {high : Nat} {text rest : List Char} {c : Char}
    (read : secondHalf high text = .ok (c, rest)) : rest.length ≤ text.length := by
  unfold secondHalf at read
  split at read
  · cases read
  · cases read
  · rename_i digits
    cases unit : codeUnit digits with
    | error failure => simp [unit, Bind.bind, Except.bind] at read
    | ok pair =>
        simp only [unit, Bind.bind, Except.bind] at read
        split at read
        · simp only [pure, Except.pure, Except.ok.injEq, Prod.mk.injEq] at read
          obtain ⟨_, rfl⟩ := read
          have shorter := codeUnit_length unit
          simp only [List.length_cons]
          omega
        · cases read
  · cases read
  · cases read

theorem escape_length {text rest : List Char} {c : Char}
    (read : escape text = .ok (c, rest)) : rest.length ≤ text.length := by
  unfold escape at read
  split at read
  · cases read
  · rename_i digits
    cases unit : codeUnit digits with
    | error failure => simp [unit, Bind.bind, Except.bind] at read
    | ok pair =>
        have shorter := codeUnit_length unit
        simp only [unit, Bind.bind, Except.bind] at read
        split at read
        · cases read
        · split at read
          · have second := secondHalf_length read
            simp only [List.length_cons]
            omega
          · simp only [pure, Except.pure, Except.ok.injEq, Prod.mk.injEq] at read
            obtain ⟨_, rfl⟩ := read
            simp only [List.length_cons]
            omega
  · split at read
    · cases read
      simp
    · cases read

theorem skipEscape_length {text rest : List Char}
    (read : skipEscape text = .ok rest) : rest.length ≤ text.length := by
  unfold skipEscape at read
  split at read
  · cases read
  · rename_i digits
    cases unit : codeUnit digits with
    | error failure => simp [unit, Bind.bind, Except.bind] at read
    | ok pair =>
        have shorter := codeUnit_length unit
        simp only [unit, Bind.bind, Except.bind] at read
        cases read
        simp only [List.length_cons]
        omega
  · split at read
    · cases read
      simp
    · cases read

/-- Takes the characters of a string and its closing mark.  What has been read is collected with
the last character first. -/
def quotation (spelt : List Char) (text : List Char) : Except Failure (List Char × List Char) :=
  match text with
  | [] => failAt .stringOpen [] 0
  | '"' :: rest => .ok (spelt.reverse, rest)
  | '\\' :: escaped =>
      match _found : escape escaped with
      | .ok (c, rest) => quotation (c :: spelt) rest
      | .error failure => .error failure
  | c :: rest =>
      if c < ' ' then failAt .controlInString text 1 else quotation (c :: spelt) rest
termination_by text.length
decreasing_by
  · have shorter := escape_length _found
    simp only [List.length_cons]
    omega
  · simp

/-- Passes over the characters of a string and its closing mark. -/
def skipQuotation (text : List Char) : Except Failure (List Char) :=
  match text with
  | [] => failAt .stringOpen [] 0
  | '"' :: rest => .ok rest
  | '\\' :: escaped =>
      match _found : skipEscape escaped with
      | .ok rest => skipQuotation rest
      | .error failure => .error failure
  | c :: rest =>
      if c < ' ' then failAt .controlInString text 0 else skipQuotation rest
termination_by text.length
decreasing_by
  · have shorter := skipEscape_length _found
    simp only [List.length_cons]
    omega
  · simp

theorem quotation_length {spelt text read rest : List Char}
    (done : quotation spelt text = .ok (read, rest)) : rest.length ≤ text.length := by
  fun_induction quotation spelt text with
  | case1 => cases done
  | case2 spelt rest => cases done; simp
  | case3 spelt escaped c next found ih =>
      have shorter := escape_length found
      have later := ih done
      simp only [List.length_cons]
      omega
  | case4 => cases done
  | case5 => cases done
  | case6 spelt c next noMark noBackslash printable ih =>
      have later := ih done
      simp only [List.length_cons]
      omega

theorem skipQuotation_length {text rest : List Char}
    (done : skipQuotation text = .ok rest) : rest.length ≤ text.length := by
  fun_induction skipQuotation text with
  | case1 => cases done
  | case2 rest => cases done; simp
  | case3 escaped next found ih =>
      have shorter := skipEscape_length found
      have later := ih done
      simp only [List.length_cons]
      omega
  | case4 => cases done
  | case5 => cases done
  | case6 c next noMark noBackslash printable ih =>
      have later := ih done
      simp only [List.length_cons]
      omega

namespace Reader

/-- Takes the rest of a string that is kept. -/
def string : Reader (List Char) := fun text =>
  quotation [] text

/-- Passes over the rest of a string. -/
def skipString : Reader Unit :=
  ofSkip skipQuotation

theorem Shrinks.string : Shrinks string := by
  intro text value left read
  exact quotation_length read

theorem Shrinks.skipString : Shrinks skipString :=
  Shrinks.ofSkip fun _ _ read => skipQuotation_length read

end Reader

end TokenStream.Json
