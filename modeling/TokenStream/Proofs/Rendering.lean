import Mathlib.Data.List.Chain
import TokenStream.Render
import TokenStream.Proofs.Concatenation

namespace TokenStream

open TokenStream.Text

/-- The tokens of lexemes that follow each other behind `before` with the separator in between. -/
def Token.spaced (separator : Char) (before : List Char) :
    List (TokenKind × List Char) → List Token
  | [] => []
  | (kind, word) :: later =>
      Token.placed before kind word :: spaced separator (before ++ (word ++ [separator])) later

/-- The texts of tokens with the separator in between. -/
def spread (separator : Char) (tokens : List Token) : List Char :=
  List.intercalate [separator] (tokens.map Token.text)

theorem render_plain (tokens : List Token) :
    render { format := .plain, showSpans := false } tokens = spread ' ' tokens := rfl

theorem render_lines (tokens : List Token) :
    render { format := .lines, showSpans := false } tokens = spread '\n' tokens := rfl

theorem spread_of_lexemes {tokens others : List Token} (separator : Char)
    (same : tokens.map Token.lexeme = others.map Token.lexeme) :
    spread separator tokens = spread separator others := by
  have texts := congrArg (List.map Prod.snd) same
  rw [List.map_map, List.map_map] at texts
  exact congrArg (List.intercalate [separator]) texts

namespace Scanner

theorem tokens_between_spaced {separator : Char} (blank : isWhiteSpace separator = true)
    {tail : List Char} (blankTail : ∀ c ∈ tail, isWhiteSpace c = true) (before : List Char)
    {words : List (TokenKind × List Char)} (lexemes : ∀ pair ∈ words, Lexeme pair.1 pair.2) :
    (between before (List.intercalate [separator] (words.map Prod.snd) ++ tail)).tokens =
      Token.spaced separator before words := by
  induction words generalizing before with
  | nil => exact tokens_between_blank (by simpa using blankTail)
  | cons first later ih =>
      obtain ⟨kind, word⟩ := first
      obtain ⟨lexeme, lexemesLater⟩ := List.forall_mem_cons.mp lexemes
      cases later with
      | nil =>
          have stops : Stops kind tail := by
            cases tail with
            | nil => exact stops_nil kind
            | cons c tail => exact lexeme.stops_blank (blankTail c List.mem_cons_self) tail
          simp only [List.map_cons, List.map_nil, List.intercalate_singleton, Token.spaced]
          rw [tokens_between_lexeme lexeme stops, tokens_between_blank blankTail]
      | cons second later =>
          -- Behind the word stand the separator and the text of the other words.
          let ahead := List.intercalate [separator] ((second :: later).map Prod.snd) ++ tail
          have skipped := tokens_between_blanks (fun c member => List.mem_singleton.mp member ▸ blank)
            (before ++ word) ahead
          rw [List.append_assoc, ih _ lexemesLater] at skipped
          have taken := tokens_between_lexeme lexeme (lexeme.stops_blank blank ahead) before
          rw [List.map_cons, List.map_cons, List.intercalate_cons_cons, List.append_assoc,
            List.append_assoc]
          exact taken.trans (congrArg (List.cons _) skipped)

end Scanner

theorem lexeme_spaced (separator : Char) (before : List Char)
    (words : List (TokenKind × List Char)) :
    (Token.spaced separator before words).map Token.lexeme = words := by
  induction words generalizing before with
  | nil => rfl
  | cons first later ih => simp [Token.spaced, ih, Token.lexeme, Token.placed]

theorem lexeme_of_mem_lexemes (text : List Char) :
    ∀ pair ∈ (tokenize text).map Token.lexeme, Lexeme pair.1 pair.2 := by
  intro pair member
  obtain ⟨token, inTokens, rfl⟩ := List.mem_map.mp member
  exact lexeme_of_mem_tokenize inTokens

theorem tokenize_spread {separator : Char} (blank : isWhiteSpace separator = true)
    (tail : List Char) (blankTail : ∀ c ∈ tail, isWhiteSpace c = true) (text : List Char) :
    tokenize (spread separator (tokenize text) ++ tail) =
      Token.spaced separator [] ((tokenize text).map Token.lexeme) := by
  have scan := Scanner.tokens_between_spaced blank blankTail [] (lexeme_of_mem_lexemes text)
  rw [List.map_map] at scan
  rw [tokenize_eq_tokens (_ ++ tail)]
  exact scan

/-- What is written of the tokens of a text holds the same tokens, so that writing them again changes
nothing, with or without a line break behind them. -/
structure ReadsBack (write : List Token → List Char) (text : List Char) : Prop where
  lexemes : (tokenize (write (tokenize text))).map Token.lexeme =
    (tokenize text).map Token.lexeme
  again : write (tokenize (write (tokenize text))) = write (tokenize text)
  printed : write (tokenize (write (tokenize text) ++ ['\n'])) = write (tokenize text)

theorem readsBack_spread {separator : Char} (blank : isWhiteSpace separator = true)
    (text : List Char) : ReadsBack (spread separator) text := by
  have scan (tail : List Char) (blankTail : ∀ c ∈ tail, isWhiteSpace c = true) :
      (tokenize (spread separator (tokenize text) ++ tail)).map Token.lexeme =
        (tokenize text).map Token.lexeme := by
    rw [tokenize_spread blank tail blankTail, lexeme_spaced]
  have lexemes : (tokenize (spread separator (tokenize text))).map Token.lexeme =
      (tokenize text).map Token.lexeme := by
    simpa using scan [] (by simp)
  have newline : ∀ c ∈ ['\n'], isWhiteSpace c = true :=
    List.forall_mem_singleton.mpr isWhiteSpace_newline
  constructor
  case lexemes => exact lexemes
  case again => exact spread_of_lexemes separator lexemes
  case printed => exact spread_of_lexemes separator (scan ['\n'] newline)

/-- One token behind the other on the first line, from a column on, with one column in between. -/
structure InOneLine (column : Nat) (tokens : List Token) : Prop where
  line : ∀ token ∈ tokens, token.span.start.line = 1 ∧ token.span.stop.line = 1
  first : ∀ token ∈ tokens.head?, token.span.start.column = column
  next : tokens.IsChain fun earlier later =>
    later.span.start.column = earlier.span.stop.column + 1

/-- One token on each line, from a line on, in the first column. -/
def InLines (line : Nat) (tokens : List Token) : Prop :=
  ∀ index token, tokens[index]? = some token →
    token.span.start.line = line + index ∧ token.span.start.column = 1

theorem inOneLine_spaced (before : List Char) (top : (Position.start.walk before).line = 1)
    {words : List (TokenKind × List Char)} (lexemes : ∀ pair ∈ words, Lexeme pair.1 pair.2) :
    InOneLine (Position.start.walk before).column (Token.spaced ' ' before words) := by
  induction words generalizing before with
  | nil => exact ⟨by simp [Token.spaced], by simp [Token.spaced], by simp [Token.spaced]⟩
  | cons first later ih =>
      obtain ⟨kind, word⟩ := first
      obtain ⟨lexeme, lexemesLater⟩ := List.forall_mem_cons.mp lexemes
      have stop := Position.walk_of_no_newline (Position.start.walk before) lexeme.newline_not_mem
      have reached : Position.start.walk (before ++ (word ++ [' '])) =
          ((Position.start.walk before).walk word).advance ' ' := by
        simp [Position.walk_append]
      have column : (Position.start.walk (before ++ (word ++ [' ']))).column =
          (Token.placed before kind word).span.stop.column + 1 := by
        simp [reached, Position.advance, Token.placed, Position.walk_append]
      have rest := ih (before ++ (word ++ [' '])) (by simp [reached, stop, Position.advance, top])
        lexemesLater
      constructor
      case line =>
        refine List.forall_mem_cons.mpr ⟨⟨top, ?_⟩, rest.line⟩
        simp [Token.placed, Position.walk_append, stop, top]
      case first => simp [Token.spaced, Token.placed]
      case next =>
        refine List.isChain_cons.mpr ⟨fun next member => ?_, rest.next⟩
        rw [rest.first next member, column]

theorem inLines_spaced (before : List Char) (left : (Position.start.walk before).column = 1)
    {words : List (TokenKind × List Char)} (lexemes : ∀ pair ∈ words, Lexeme pair.1 pair.2) :
    InLines (Position.start.walk before).line (Token.spaced '\n' before words) := by
  induction words generalizing before with
  | nil => simp [InLines, Token.spaced]
  | cons first later ih =>
      obtain ⟨kind, word⟩ := first
      obtain ⟨lexeme, lexemesLater⟩ := List.forall_mem_cons.mp lexemes
      have stop := Position.walk_of_no_newline (Position.start.walk before) lexeme.newline_not_mem
      have reached : Position.start.walk (before ++ (word ++ ['\n'])) =
          ((Position.start.walk before).walk word).advance '\n' := by
        simp [Position.walk_append]
      have rest := ih (before ++ (word ++ ['\n'])) (by simp [reached, Position.advance])
        lexemesLater
      intro index token found
      cases index with
      | zero =>
          obtain rfl : Token.placed before kind word = token := by simpa [Token.spaced] using found
          exact ⟨rfl, left⟩
      | succ index =>
          have later := rest index token (by simpa [Token.spaced] using found)
          simpa [reached, stop, Position.advance, Nat.add_assoc, Nat.add_comm 1] using later

/-- Tokens that are rendered without their places can be read back from what is printed: on one line
with one column between them, or each at the start of a line of its own. -/
theorem render_reads_back (text : List Char) :
    let plain := render { format := .plain, showSpans := false }
    let lines := render { format := .lines, showSpans := false }
    ReadsBack plain text ∧ InOneLine 1 (tokenize (plain (tokenize text))) ∧
      ReadsBack lines text ∧ InLines 1 (tokenize (lines (tokenize text))) := by
  intro plain lines
  have plainSpread : plain = spread ' ' := funext render_plain
  have linesSpread : lines = spread '\n' := funext render_lines
  have lexemes := lexeme_of_mem_lexemes text
  have scan {separator : Char} (blank : isWhiteSpace separator = true) :
      tokenize (spread separator (tokenize text)) =
        Token.spaced separator [] ((tokenize text).map Token.lexeme) := by
    simpa using tokenize_spread blank [] (by simp) text
  have oneLine : InOneLine 1 (Token.spaced ' ' [] ((tokenize text).map Token.lexeme)) :=
    inOneLine_spaced [] rfl lexemes
  have ownLines : InLines 1 (Token.spaced '\n' [] ((tokenize text).map Token.lexeme)) :=
    inLines_spaced [] rfl lexemes
  rw [plainSpread, linesSpread]
  refine ⟨readsBack_spread rfl text, ?_, readsBack_spread rfl text, ?_⟩
  · rwa [← scan rfl] at oneLine
  · rwa [← scan rfl] at ownLines

end TokenStream
