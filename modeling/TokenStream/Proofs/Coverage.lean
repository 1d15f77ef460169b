import TokenStream.Proofs.Cursor

namespace TokenStream

open TokenStream.Text

/-- The token is the text that its span names, and its span is right about lines and columns. -/
structure Token.Exact (text : List Char) (token : Token) : Prop where
  nonempty : token.text ≠ []
  slice : Slice text token.span.start.offset token.span.stop.offset token.text
  start : token.span.start = Position.ofOffset text token.span.start.offset
  stop : token.span.stop = Position.ofOffset text token.span.stop.offset
  line : token.span.stop.line = token.span.start.line
  column : token.span.stop.column = token.span.start.column + token.text.length

theorem Lexeme.exact_placed {kind : TokenKind} {word : List Char} (lexeme : Lexeme kind word)
    (before after : List Char) :
    (Token.placed before kind word).Exact (before ++ (word ++ after)) := by
  have inline := Position.walk_of_no_newline (Position.start.walk before) lexeme.newline_not_mem
  constructor
  case nonempty => exact lexeme.ne_nil
  case slice =>
      exact ⟨before, after, rfl, (Position.walk_start_offset before).symm,
        (Position.walk_start_offset (before ++ word)).symm⟩
  case start =>
      rw [Token.placed, Position.walk_start_offset, Position.ofOffset_boundary]
  case stop =>
      rw [Token.placed, Position.walk_start_offset, ← List.append_assoc,
        Position.ofOffset_boundary]
  case line => simp [Token.placed, Position.walk_append, inline]
  case column => simp [Token.placed, Position.walk_append, inline]

theorem exact_of_mem_tokenize {text : List Char} {token : Token} (member : token ∈ tokenize text) :
    token.Exact text := by
  rw [tokenize_eq_tokens] at member
  obtain ⟨passed, kind, word, after, rfl, lexeme, _, rfl⟩ :=
    Scanner.mem_tokens_between member
  exact lexeme.exact_placed passed after

def Span.holds (span : Span) (offset : Nat) : Bool :=
  span.start.offset ≤ offset && offset < span.stop.offset

theorem Span.holds_iff {span : Span} {offset : Nat} :
    span.holds offset = true ↔ span.start.offset ≤ offset ∧ offset < span.stop.offset := by
  simp [Span.holds]

theorem holds_placed (before blanks word passed : List Char) (kind : TokenKind) :
    (Token.placed (before ++ blanks) kind word).span.holds (byteLength (before ++ passed)) =
      decide (byteLength blanks ≤ byteLength passed ∧
        byteLength passed < byteLength (blanks ++ word)) := by
  rw [Bool.eq_iff_iff, Span.holds_iff, decide_eq_true_iff]
  simp only [Token.placed, Position.walk_start_offset, byteLength_append]
  omega

theorem countP_tokens_of_lt {before : List Char} {offset : Nat}
    (behind : offset < byteLength before) (rest : List Char) :
    (Scanner.between before rest).tokens.countP (fun token => token.span.holds offset) = 0 := by
  rw [List.countP_eq_zero]
  intro token member held
  have ahead := Scanner.start_of_mem_tokens member
  have inside := (Span.holds_iff.mp held).1
  omega

/-- The tokens that hold a character of the text ahead: one, or none for white space. -/
theorem countP_tokens_between (before : List Char) {rest passed after : List Char} {c : Char}
    (split : rest = passed ++ c :: after) :
    (Scanner.between before rest).tokens.countP
        (fun token => token.span.holds (byteLength (before ++ passed))) =
      if isWhiteSpace c then 0 else 1 := by
  induction before, rest using scan_induction generalizing passed with
  | ends before blanks blank =>
      have white : isWhiteSpace c = true := blank c (by simp [split])
      simp [Scanner.tokens_between_blank blank, white]
  | reads before blanks kind word ahead step ih =>
      rw [Scanner.tokens_between_reads step, List.countP_cons, holds_placed]
      -- The character is in the blanks, in the word or behind it.
      rcases character_of_append split with ⟨early, inBlanks⟩ | ⟨fromWord, rfl, splitWord⟩
      · have outside : ¬ byteLength blanks ≤ byteLength passed := by omega
        rw [countP_tokens_of_lt (by simp only [byteLength_append]; omega), step.blank c inBlanks]
        simp [outside]
      · rcases character_of_append splitWord with ⟨early, inWord⟩ | ⟨fromAhead, rfl, splitAhead⟩
        · rw [countP_tokens_of_lt (by simp only [byteLength_append]; omega),
            step.lexeme.not_whiteSpace inWord]
          simp [early]
        · have counted := ih splitAhead
          simp only [List.append_assoc] at counted
          rw [counted]
          simp

/-- What a list of tokens says about its text: each token is exact, they come in order, and
together they hold the text without its white space, every other character once. -/
structure Covers (text : List Char) (tokens : List Token) : Prop where
  exact : ∀ token ∈ tokens, token.Exact text
  ordered : tokens.Pairwise
    fun earlier later => earlier.span.stop.offset ≤ later.span.start.offset
  texts : tokens.flatMap Token.text = text.filter fun c => !isWhiteSpace c
  once : ∀ before c after, text = before ++ c :: after →
    tokens.countP (fun token => token.span.holds (byteLength before)) =
      if isWhiteSpace c then 0 else 1

/-- Tokenizing loses nothing but white space, repeats nothing, and knows where everything stands. -/
theorem tokenize_covers (text : List Char) : Covers text (tokenize text) where
  exact token member := exact_of_mem_tokenize member
  ordered := by
    rw [tokenize_eq_tokens]
    exact Scanner.tokens_ordered [] text
  texts := by
    rw [tokenize_eq_tokens]
    exact Scanner.tokens_text [] text
  once before c after split := by
    rw [tokenize_eq_tokens]
    exact countP_tokens_between [] split

end TokenStream
