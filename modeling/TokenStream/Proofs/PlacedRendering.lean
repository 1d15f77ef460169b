import Mathlib.Data.List.Basic
import TokenStream.Proofs.Rendering

namespace TokenStream

open TokenStream.Text

/-! Tokens that are rendered with their places can be read back.

Nothing is escaped, so this rests on what a lexeme can be: it holds no white space, and
its first character tells its kind.  The separators are therefore those between the
tokens, a place is behind the last at sign of a piece, and the text is behind the
second tab.
-/

namespace Text

/-- The parts of a text in front of the first separator and behind it. -/
def cutAtFirst (separator : Char) (text : List Char) : List Char × List Char :=
  (text.takeWhile (· != separator), (text.dropWhile (· != separator)).tail)

/-- The parts of a text in front of the last separator and behind it. -/
def cutAtLast (separator : Char) (text : List Char) : List Char × List Char :=
  let (behind, front) := cutAtFirst separator text.reverse
  (front.reverse, behind.reverse)

theorem cutAtFirst_append {separator : Char} {front : List Char} (absent : separator ∉ front)
    (behind : List Char) : cutAtFirst separator (front ++ separator :: behind) = (front, behind) := by
  have other : ∀ c ∈ front, (c != separator) = true := by
    intro c member
    rw [bne_iff_ne]
    rintro rfl
    exact absent member
  simp [cutAtFirst, List.takeWhile_append_of_pos other, List.dropWhile_append_of_pos other]

theorem cutAtLast_append {separator : Char} {behind : List Char} (absent : separator ∉ behind)
    (front : List Char) : cutAtLast separator (front ++ separator :: behind) = (front, behind) := by
  have reversed : (front ++ separator :: behind).reverse =
      behind.reverse ++ separator :: front.reverse := by simp
  rw [cutAtLast, reversed, cutAtFirst_append (by simpa using absent)]
  simp

end Text

/-- What is shown of a token together with its place. -/
structure Sighting where
  kind : TokenKind
  text : List Char
  line : Nat
  column : Nat
deriving Repr, DecidableEq

def Token.sighting (token : Token) : Sighting where
  kind := token.kind
  text := token.text
  line := token.start.line
  column := token.start.column

namespace Position

/-- The line and the column of a written place. -/
def read (place : List Char) : Nat × Nat :=
  let (line, column) := cutAtFirst ':' place
  (Nat.ofDigitChars 10 line 0, Nat.ofDigitChars 10 column 0)

theorem not_mem_writeNumber {c : Char} (other : c.isDigit = false) (value : Nat) :
    c ∉ Json.writeNumber value := by
  intro member
  have digit := Nat.isDigit_of_mem_toDigits (by decide) (by decide) member
  simp [other] at digit

theorem not_mem_written {c : Char} (noDigit : c.isDigit = false) (noColon : c ≠ ':')
    (position : Position) : c ∉ position.written := by
  simp [written, not_mem_writeNumber noDigit, noColon]

theorem read_written (position : Position) :
    read position.written = (position.line, position.column) := by
  rw [read, written, cutAtFirst_append (not_mem_writeNumber rfl _)]
  simp [Json.writeNumber, Nat.ofDigitChars_toDigits]

end Position

/-- The kind of the tokens that the text can be the text of. -/
def TokenKind.ofText? : List Char → Option TokenKind
  | [] => none
  | c :: _ => some (startedBy (CharClass.of c))

def TokenKind.named? (name : List Char) : Option TokenKind :=
  [TokenKind.special, .number, .identifier, .operator, .other, .endOfInput].find?
    fun kind => kind.name.toList == name

theorem TokenKind.named?_name (kind : TokenKind) : named? kind.name.toList = some kind := by
  cases kind <;> rfl

theorem TokenKind.not_mem_name {c : Char} (blank : isWhiteSpace c = true) (kind : TokenKind) :
    c ∉ kind.name.toList := by
  have visible : kind.name.toList.all (fun d => !isWhiteSpace d) = true := by cases kind <;> rfl
  intro member
  simpa [blank] using List.all_eq_true.mp visible c member

theorem Lexeme.ofText?_eq {kind : TokenKind} {word : List Char} (lexeme : Lexeme kind word) :
    TokenKind.ofText? word = some kind := by
  obtain ⟨c, rest, rfl⟩ := List.exists_cons_of_ne_nil lexeme.ne_nil
  obtain ⟨_, rfl, _⟩ := started_of_lexeme lexeme
  rfl

namespace Sighting

/-- The place as far as it is shown: offsets are not. -/
def place (sighting : Sighting) : Position where
  line := sighting.line
  column := sighting.column
  offset := 0

def inPlain (sighting : Sighting) : List Char :=
  sighting.text ++ '@' :: sighting.place.written

def inLine (sighting : Sighting) : List Char :=
  sighting.place.written ++ '\t' :: (sighting.kind.name.toList ++ '\t' :: sighting.text)

def ofPlain? (piece : List Char) : Option Sighting :=
  let (text, place) := cutAtLast '@' piece
  let (line, column) := Position.read place
  (TokenKind.ofText? text).map fun kind => { kind, text, line, column }

def ofLine? (piece : List Char) : Option Sighting :=
  let (place, rest) := cutAtFirst '\t' piece
  let (name, text) := cutAtFirst '\t' rest
  let (line, column) := Position.read place
  (TokenKind.named? name).map fun kind => { kind, text, line, column }

/-- The pieces between separators, each read by itself.  No piece at all is written as nothing. -/
def readAll (separator : Char) (read : List Char → Option Sighting) (text : List Char) :
    Option (List Sighting) :=
  if text = [] then some [] else (text.splitOn separator).mapM read

def writePlain (sightings : List Sighting) : List Char :=
  List.intercalate [' '] (sightings.map inPlain)

def writeLines (sightings : List Sighting) : List Char :=
  List.intercalate ['\n'] (sightings.map inLine)

def readPlain : List Char → Option (List Sighting) :=
  readAll ' ' ofPlain?

def readLines : List Char → Option (List Sighting) :=
  readAll '\n' ofLine?

variable {sighting : Sighting}

theorem ofPlain?_inPlain (lexeme : Lexeme sighting.kind sighting.text) :
    ofPlain? sighting.inPlain = some sighting := by
  have noMark : '@' ∉ sighting.place.written := Position.not_mem_written rfl (by decide) _
  simp only [ofPlain?, inPlain, cutAtLast_append noMark, Position.read_written, lexeme.ofText?_eq]
  rfl

theorem ofLine?_inLine (sighting : Sighting) : ofLine? sighting.inLine = some sighting := by
  have noTab : '\t' ∉ sighting.place.written := Position.not_mem_written rfl (by decide) _
  have noTabInName : '\t' ∉ sighting.kind.name.toList := sighting.kind.not_mem_name rfl
  simp only [ofLine?, inLine, cutAtFirst_append noTab, cutAtFirst_append noTabInName,
    Position.read_written, TokenKind.named?_name]
  rfl

theorem not_mem_inPlain (lexeme : Lexeme sighting.kind sighting.text) : ' ' ∉ sighting.inPlain := by
  have inPlace : ' ' ∉ sighting.place.written := Position.not_mem_written rfl (by decide) _
  have inText : ' ' ∉ sighting.text := lexeme.not_mem rfl
  simp [inPlain, inPlace, inText]

theorem not_mem_inLine (lexeme : Lexeme sighting.kind sighting.text) : '\n' ∉ sighting.inLine := by
  have inPlace : '\n' ∉ sighting.place.written := Position.not_mem_written rfl (by decide) _
  have inName : '\n' ∉ sighting.kind.name.toList := sighting.kind.not_mem_name rfl
  have inText : '\n' ∉ sighting.text := lexeme.not_mem rfl
  simp [inLine, inPlace, inName, inText]

theorem mapM_written {read : List Char → Option Sighting} {write : Sighting → List Char}
    {sightings : List Sighting} (reads : ∀ s ∈ sightings, read (write s) = some s) :
    (sightings.map write).mapM read = some sightings := by
  induction sightings with
  | nil => rfl
  | cons first later ih =>
      obtain ⟨readFirst, readLater⟩ := List.forall_mem_cons.mp reads
      simp [readFirst, ih readLater]

theorem readAll_intercalate {separator : Char} {read : List Char → Option Sighting}
    {write : Sighting → List Char} {sightings : List Sighting}
    (absent : ∀ s ∈ sightings, separator ∉ write s) (nonempty : ∀ s ∈ sightings, write s ≠ [])
    (reads : ∀ s ∈ sightings, read (write s) = some s) :
    readAll separator read (List.intercalate [separator] (sightings.map write)) =
      some sightings := by
  cases sightings with
  | nil => rfl
  | cons first later =>
      have pieces : (List.intercalate [separator] ((first :: later).map write)).splitOn separator =
          (first :: later).map write :=
        List.splitOn_intercalate separator (by simpa using absent) (by simp)
      have something : List.intercalate [separator] ((first :: later).map write) ≠ [] := by
        intro nothing
        rw [nothing, List.splitOn_nil, List.map_cons, List.cons.injEq] at pieces
        exact nonempty first List.mem_cons_self pieces.1.symm
      rw [readAll, if_neg something, pieces, mapM_written reads]

theorem readPlain_writePlain {sightings : List Sighting}
    (lexemes : ∀ s ∈ sightings, Lexeme s.kind s.text) :
    readPlain (writePlain sightings) = some sightings :=
  readAll_intercalate (fun s member => not_mem_inPlain (lexemes s member))
    (fun s _ => by simp [inPlain]) fun s member => ofPlain?_inPlain (lexemes s member)

theorem readLines_writeLines {sightings : List Sighting}
    (lexemes : ∀ s ∈ sightings, Lexeme s.kind s.text) :
    readLines (writeLines sightings) = some sightings :=
  readAll_intercalate (fun s member => not_mem_inLine (lexemes s member))
    (fun s _ => by simp [inLine]) fun s _ => ofLine?_inLine s

theorem write_eq_iff_of_read {write : List Sighting → List Char}
    {read : List Char → Option (List Sighting)} {first second : List Sighting}
    (readFirst : read (write first) = some first) (readSecond : read (write second) = some second) :
    write first = write second ↔ first = second := by
  constructor
  · intro same
    rw [same, readSecond] at readFirst
    exact (Option.some.inj readFirst).symm
  · exact congrArg write

end Sighting

theorem Token.plainText_shown : Token.plainText true = Sighting.inPlain ∘ Token.sighting := rfl

theorem Token.lineText_shown : Token.lineText true = Sighting.inLine ∘ Token.sighting := by
  funext token
  simp [lineText, Sighting.inLine, Sighting.place, Token.sighting, Position.written]

theorem render_plain_shown (tokens : List Token) :
    render { format := .plain, showSpans := true } tokens =
      Sighting.writePlain (tokens.map Token.sighting) := by
  rw [Sighting.writePlain, List.map_map, ← Token.plainText_shown]
  rfl

theorem render_lines_shown (tokens : List Token) :
    render { format := .lines, showSpans := true } tokens =
      Sighting.writeLines (tokens.map Token.sighting) := by
  rw [Sighting.writeLines, List.map_map, ← Token.lineText_shown]
  rfl

theorem lexeme_of_mem_sightings {text : List Char} :
    ∀ sighting ∈ (tokenize text).map Token.sighting, Lexeme sighting.kind sighting.text := by
  intro sighting member
  obtain ⟨token, inTokens, rfl⟩ := List.mem_map.mp member
  exact lexeme_of_mem_tokenize inTokens

/-- What is printed of the tokens of a text with their places can be read back, in both formats that
are not JSON.  So it is the same for two texts just when their tokens have the same kinds, texts,
lines and columns, one by one. -/
theorem render_with_places_reads_back :
    let plain text := render { format := .plain, showSpans := true } (tokenize text)
    let lines text := render { format := .lines, showSpans := true } (tokenize text)
    let sightings text := (tokenize text).map Token.sighting
    (∀ text, Sighting.readPlain (plain text) = some (sightings text) ∧
      Sighting.readLines (lines text) = some (sightings text)) ∧
    ∀ first second,
      (plain first = plain second ↔ sightings first = sightings second) ∧
      (lines first = lines second ↔ sightings first = sightings second) := by
  intro plain lines sightings
  have plainShown (text : List Char) : plain text = Sighting.writePlain (sightings text) :=
    render_plain_shown (tokenize text)
  have linesShown (text : List Char) : lines text = Sighting.writeLines (sightings text) :=
    render_lines_shown (tokenize text)
  have readPlain (text : List Char) :
      Sighting.readPlain (Sighting.writePlain (sightings text)) = some (sightings text) :=
    Sighting.readPlain_writePlain lexeme_of_mem_sightings
  have readLines (text : List Char) :
      Sighting.readLines (Sighting.writeLines (sightings text)) = some (sightings text) :=
    Sighting.readLines_writeLines lexeme_of_mem_sightings
  simp only [plainShown, linesShown]
  exact ⟨fun text => ⟨readPlain text, readLines text⟩, fun first second =>
    ⟨Sighting.write_eq_iff_of_read (readPlain first) (readPlain second),
      Sighting.write_eq_iff_of_read (readLines first) (readLines second)⟩⟩

/-- At signs and digits may be tokens themselves. -/
example : Sighting.readPlain "@@1:1 @@1:2 1@1:3".toList =
    some [⟨.other, ['@'], 1, 1⟩, ⟨.other, ['@'], 1, 2⟩, ⟨.number, ['1'], 1, 3⟩] := by
  decide +kernel

end TokenStream
