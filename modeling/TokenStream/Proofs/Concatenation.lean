import TokenStream.Proofs.Cursor

namespace TokenStream

open TokenStream.Text

/-! The tokens of a text and the tokens of its parts.

What is behind a scanner makes a difference to the places of its tokens and to
nothing else (`Scanner.tokens_between_past`).  What has been found in front of a
boundary stays when text is added behind it, unless the last token reaches the
boundary and goes on (`Joins`), and then that token does not stay
(`tokenize_append_of_joins`).
-/

namespace Position

/-- A place of a text after `before` has been put in front of the text. -/
def past (before : List Char) (position : Position) : Position :=
  { line := position.line + before.count '\n'
    column :=
      if position.line = 1 then position.column + ((start.walk before).column - 1)
      else position.column
    offset := position.offset + byteLength before }

theorem walk_start_append (before text : List Char) :
    start.walk (before ++ text) = (start.walk text).past before := by
  by_cases broken : '\n' ∈ text
  · -- The last line break is in `text`, and the column counts from there.
    have lines := List.count_pos_iff.mpr broken
    have stopped : (text.reverse.takeWhile (· != '\n')).length ≠ text.reverse.length := by
      intro whole
      have inline := List.takeWhile_eq_self_iff.mp
        ((List.takeWhile_prefix _).eq_of_length whole) '\n' (List.mem_reverse.mpr broken)
      simp at inline
    simp only [walk_start, past, atEndOf, List.reverse_append, List.takeWhile_append, stopped,
      ↓reduceIte, List.count_append, byteLength_append]
    rw [if_neg (by omega)]
    congr 1 <;> omega
  · rw [walk_append, past, walk_of_no_newline (start.walk before) broken,
      walk_of_no_newline start broken, walk_start]
    simp only [atEndOf, start, ↓reduceIte]
    congr 1 <;> omega

end Position

/-- What a token is, apart from where it stands. -/
def Token.lexeme (token : Token) : TokenKind × List Char :=
  (token.kind, token.text)

/-- The token after `before` has been put in front of its text. -/
def Token.past (before : List Char) (token : Token) : Token :=
  { token with
    span := { start := token.span.start.past before, stop := token.span.stop.past before } }

/-- An offset lies between the ends of the token and is neither of them. -/
def Token.Straddles (token : Token) (offset : Nat) : Prop :=
  token.span.start.offset < offset ∧ offset < token.span.stop.offset

instance (token : Token) (offset : Nat) : Decidable (token.Straddles offset) :=
  inferInstanceAs (Decidable (_ ∧ _))

theorem placed_append (before passed : List Char) (kind : TokenKind) (word : List Char) :
    Token.placed (before ++ passed) kind word = (Token.placed passed kind word).past before := by
  simp only [Token.placed, Token.past, List.append_assoc, ← Position.walk_start_append]

namespace Scanner

theorem tokens_between_nil (before : List Char) : (between before []).tokens = [] :=
  tokens_between_blank (by simp)

theorem tokens_between_lexeme {kind : TokenKind} {word after : List Char}
    (lexeme : Lexeme kind word) (stops : Stops kind after) (before : List Char) :
    (between before (word ++ after)).tokens =
      Token.placed before kind word :: (between (before ++ word) after).tokens := by
  have whole : (between before ([] ++ (word ++ after))).tokens =
      Token.placed (before ++ []) kind word :: (between (before ++ ([] ++ word)) after).tokens :=
    tokens_between_reads ⟨by simp, lexeme, stops⟩
  simpa using whole

theorem tokens_of_lexeme {kind : TokenKind} {word : List Char} (lexeme : Lexeme kind word)
    (before : List Char) : (between before word).tokens = [Token.placed before kind word] := by
  have alone := tokens_between_lexeme lexeme (stops_nil kind) before
  rwa [List.append_nil, tokens_between_nil] at alone

theorem tokens_between_blanks {blanks : List Char} (blank : ∀ c ∈ blanks, isWhiteSpace c = true)
    (before rest : List Char) :
    (between before (blanks ++ rest)).tokens = (between (before ++ blanks) rest).tokens := by
  rcases blank_or_reads rest with others | ⟨others, kind, word, after, rfl, step⟩
  · rw [tokens_between_blank (List.forall_mem_append.mpr ⟨blank, others⟩),
      tokens_between_blank others]
  · have joined : Reads (blanks ++ others) kind word after :=
      ⟨List.forall_mem_append.mpr ⟨blank, step.blank⟩, step.lexeme, step.stops⟩
    rw [tokens_between_reads step, ← List.append_assoc, tokens_between_reads joined]
    simp

/-- What a scanner has behind it moves its tokens and does not change them. -/
theorem tokens_between_past (before passed rest : List Char) :
    (between (before ++ passed) rest).tokens =
      (between passed rest).tokens.map (Token.past before) := by
  induction passed, rest using scan_induction with
  | ends passed blanks blank =>
      rw [tokens_between_blank blank, tokens_between_blank blank, List.map_nil]
  | reads passed blanks kind word after step ih =>
      rw [tokens_between_reads step, tokens_between_reads step, List.map_cons, ← ih,
        List.append_assoc, List.append_assoc, placed_append]

/-- The text ends with `left`, and the tokens in front of that stay whatever is added. -/
structure Settled (before first : List Char) (found : List Token) (passed left : List Char) :
    Prop where
  split : before ++ first = passed ++ left
  scan : ∀ second, (between before (first ++ second)).tokens =
    found ++ (between passed (left ++ second)).tokens

/-- A text ends with blanks that no token reaches, or with a lexeme. -/
theorem exists_settled (before first : List Char) :
    ∃ found passed left, Settled before first found passed left ∧
      (((∀ c ∈ left, isWhiteSpace c = true) ∧
          ∀ token ∈ found, token.span.stop.offset < byteLength (before ++ first)) ∨
        ∃ kind, Lexeme kind left) := by
  induction before, first using scan_induction with
  | ends before blanks blank =>
      exact ⟨[], before, blanks, ⟨rfl, fun _ => rfl⟩, .inl ⟨blank, by simp⟩⟩
  | reads before blanks kind word after step ih =>
      cases after with
      | nil =>
          refine ⟨[], before ++ blanks, word, ⟨by simp, fun second => ?_⟩, .inr ⟨kind, step.lexeme⟩⟩
          simp [tokens_between_blanks step.blank]
      | cons c after =>
          obtain ⟨found, passed, left, settled, piece⟩ := ih
          refine ⟨Token.placed (before ++ blanks) kind word :: found, passed, left, ⟨?_, ?_⟩, ?_⟩
          · simpa using settled.split
          · intro second
            have longer : Reads blanks kind word (c :: after ++ second) :=
              ⟨step.blank, step.lexeme, fun d next => step.stops d (by simpa using next)⟩
            rw [List.append_assoc, List.append_assoc, tokens_between_reads longer, settled.scan,
              List.cons_append]
          · refine piece.imp_left fun ⟨blank, short⟩ => ⟨blank, List.forall_mem_cons.mpr ⟨?_, ?_⟩⟩
            · have width := c.utf8Size_pos
              simp only [Token.placed, Position.walk_start_offset, byteLength_append,
                byteLength_cons]
              omega
            · simpa using short

theorem Settled.tokens_eq {before first : List Char} {found : List Token} {passed left : List Char}
    (settled : Settled before first found passed left) :
    (between before first).tokens = found ++ (between passed left).tokens := by
  simpa using settled.scan []

end Scanner

/-- The last token of `first` reaches the end, and `second` starts with a character that makes it
longer. -/
def Joins (first second : List Char) : Prop :=
  ∃ token c, (tokenize first).getLast? = some token ∧
    token.span.stop.offset = byteLength first ∧ second.head? = some c ∧ Extends token.kind c

theorem tokenize_of_lexeme {first : List Char} {found : List Token} {passed left : List Char}
    {kind : TokenKind} (settled : Scanner.Settled [] first found passed left)
    (lexeme : Lexeme kind left) :
    tokenize first = found ++ [Token.placed passed kind left] := by
  rw [tokenize_eq_tokens, settled.tokens_eq, Scanner.tokens_of_lexeme lexeme]

/-- Whether the second text goes on with the last token of the first depends on how the first ends. -/
theorem joins_iff_not_stops {first second : List Char} {found : List Token}
    {passed left : List Char} {kind : TokenKind}
    (settled : Scanner.Settled [] first found passed left) (lexeme : Lexeme kind left) :
    Joins first second ↔ ¬ Stops kind second := by
  have split : first = passed ++ left := settled.split
  simp only [Joins, tokenize_of_lexeme settled lexeme, List.getLast?_concat, Option.some.injEq]
  constructor
  · rintro ⟨_, c, rfl, _, next, longer⟩ stops
    exact stops c next longer
  · intro goesOn
    simp only [Stops, not_forall, not_not] at goesOn
    obtain ⟨c, next, longer⟩ := goesOn
    refine ⟨_, c, rfl, ?_, next, longer⟩
    rw [split]
    exact Position.walk_start_offset _

theorem not_joins_of_short {first second : List Char}
    (short : ∀ token ∈ tokenize first, token.span.stop.offset < byteLength first) :
    ¬ Joins first second := by
  rintro ⟨token, c, last, reaches, _⟩
  have behind := short token (List.mem_of_getLast? last)
  omega

/-- Where no token goes on behind the boundary, the tokens on both sides of it are found as they are
found in a scan that starts at the boundary. -/
theorem tokenize_append_of_not_joins {first second : List Char} (apart : ¬ Joins first second) :
    tokenize (first ++ second) = tokenize first ++ (Scanner.between first second).tokens := by
  obtain ⟨found, passed, left, settled, piece⟩ := Scanner.exists_settled [] first
  have split : first = passed ++ left := settled.split
  have whole : tokenize (first ++ second) =
      found ++ (Scanner.between passed (left ++ second)).tokens := by
    rw [tokenize_eq_tokens]
    exact settled.scan second
  rcases piece with ⟨blank, _⟩ | ⟨kind, lexeme⟩
  · rw [whole, tokenize_eq_tokens first, settled.tokens_eq, Scanner.tokens_between_blank blank,
      Scanner.tokens_between_blanks blank, List.append_nil, ← split]
  · have stops : Stops kind second := by
      rw [joins_iff_not_stops settled lexeme, not_not] at apart
      exact apart
    rw [whole, tokenize_of_lexeme settled lexeme, Scanner.tokens_between_lexeme lexeme stops,
      List.append_assoc, List.singleton_append, ← split]

/-- A token that reaches the boundary between two texts and goes on behind it. -/
structure Seam (first second : List Char) (found : List Token) (passed : List Char)
    (kind : TokenKind) (word more after : List Char) : Prop where
  left : first = passed ++ word
  right : second = more ++ after
  lexeme : Lexeme kind word
  nonempty : more ≠ []
  goesOn : ∀ c ∈ more, kind.continuesWith c = true
  stops : Stops kind after
  alone : tokenize first = found ++ [Token.placed passed kind word]
  joined : tokenize (first ++ second) = found ++
    Token.placed passed kind (word ++ more) ::
      (Scanner.between (passed ++ (word ++ more)) after).tokens

theorem tokenize_append_of_joins {first second : List Char} (joins : Joins first second) :
    ∃ found passed kind word more after, Seam first second found passed kind word more after := by
  obtain ⟨found, passed, word, settled, piece⟩ := Scanner.exists_settled [] first
  rcases piece with ⟨blank, short⟩ | ⟨kind, lexeme⟩
  · exfalso
    refine not_joins_of_short ?_ joins
    rw [tokenize_eq_tokens, settled.tokens_eq, Scanner.tokens_between_blank blank, List.append_nil]
    exact short
  · have goesOn := (joins_iff_not_stops settled lexeme).mp joins
    have whole := List.takeWhile_append_dropWhile (p := kind.continuesWith) (l := second)
    have later : ∀ c ∈ second.takeWhile kind.continuesWith, kind.continuesWith c = true :=
      fun c member => List.mem_takeWhile_imp member
    have stops := stops_dropWhile kind second
    refine ⟨found, passed, kind, word, second.takeWhile kind.continuesWith,
      second.dropWhile kind.continuesWith, settled.split, whole.symm, lexeme, ?_, later, stops,
      tokenize_of_lexeme settled lexeme, ?_⟩
    · intro nothing
      rw [nothing, List.nil_append] at whole
      exact goesOn (whole ▸ stops)
    · rw [← Scanner.tokens_between_lexeme (lexeme.append later) stops, List.append_assoc, whole,
        tokenize_eq_tokens]
      exact settled.scan second

namespace Seam

variable {first second passed word more after : List Char} {found : List Token} {kind : TokenKind}

theorem straddles (seam : Seam first second found passed kind word more after) :
    (Token.placed passed kind (word ++ more)).Straddles (byteLength first) := by
  have wordWidth := byteLength_pos seam.lexeme.ne_nil
  have moreWidth := byteLength_pos seam.nonempty
  rw [seam.left]
  simp only [Token.Straddles, Token.placed, Position.walk_start_offset, byteLength_append]
  omega

theorem mem (seam : Seam first second found passed kind word more after) :
    Token.placed passed kind (word ++ more) ∈ tokenize (first ++ second) := by
  simp [seam.joined]

/-- The token at the boundary is another one than it was without the second text. -/
theorem lexemes_ne (seam : Seam first second found passed kind word more after)
    (others : List Token) :
    (tokenize (first ++ second)).map Token.lexeme ≠
      (tokenize first ++ others).map Token.lexeme := by
  intro same
  rw [seam.joined, seam.alone, List.append_assoc, List.map_append, List.map_append,
    List.append_cancel_left_eq] at same
  simp only [List.map_cons, List.singleton_append, Token.lexeme, Token.placed, List.cons.injEq,
    Prod.mk.injEq, List.append_right_eq_self] at same
  exact seam.nonempty same.1.2

end Seam

theorem lexeme_of_mem_tokenize {text : List Char} {token : Token} (member : token ∈ tokenize text) :
    Lexeme token.kind token.text := by
  rw [tokenize_eq_tokens] at member
  obtain ⟨passed, kind, word, after, _, lexeme, _, rfl⟩ := Scanner.mem_tokens_between member
  exact lexeme

theorem span_of_mem_tokenize {text : List Char} {token : Token} (member : token ∈ tokenize text) :
    token.span.start.offset < token.span.stop.offset ∧
      token.span.stop.offset ≤ byteLength text := by
  rw [tokenize_eq_tokens] at member
  obtain ⟨passed, kind, word, after, rfl, lexeme, _, rfl⟩ := Scanner.mem_tokens_between member
  have width := byteLength_pos lexeme.ne_nil
  simp only [Token.placed, Position.walk_start_offset, List.nil_append, byteLength_append]
  omega

theorem joins_iff_straddles (first second : List Char) :
    Joins first second ↔ ∃ token ∈ tokenize (first ++ second), token.Straddles (byteLength first) := by
  constructor
  · intro joins
    obtain ⟨found, passed, kind, word, more, after, seam⟩ := tokenize_append_of_joins joins
    exact ⟨_, seam.mem, seam.straddles⟩
  · rintro ⟨token, member, starts, stops⟩
    apply Classical.byContradiction
    intro apart
    rw [tokenize_append_of_not_joins apart] at member
    rcases List.mem_append.mp member with inFirst | inSecond
    · have behind := (span_of_mem_tokenize inFirst).2
      omega
    · have ahead := Scanner.start_of_mem_tokens inSecond
      omega

theorem not_joins_of_blank {blanks : List Char} (nonempty : blanks ≠ [])
    (blank : ∀ c ∈ blanks, isWhiteSpace c = true) (first second : List Char) :
    ¬ Joins first (blanks ++ second) := by
  rintro ⟨token, c, last, _, next, longer⟩
  have lexeme := lexeme_of_mem_tokenize (List.mem_of_getLast? last)
  obtain ⟨d, others, rfl⟩ := List.exists_cons_of_ne_nil nonempty
  exact lexeme.stops_blank (blank d List.mem_cons_self) (others ++ second) c next longer

theorem lexemes_tokens_between (before text : List Char) :
    (Scanner.between before text).tokens.map Token.lexeme = (tokenize text).map Token.lexeme := by
  have moved := Scanner.tokens_between_past before [] text
  rw [List.append_nil, ← tokenize_eq_tokens] at moved
  rw [moved, List.map_map]
  rfl

/-- Tokenizing two texts in one is tokenizing each of them, with the tokens of the second moved behind
the first, unless the second goes on with the last token of the first.  Blanks may be put at any
place of a text that is not inside a token, and only there, without a difference to the tokens. -/
theorem tokenize_append_iff (first second : List Char) :
    (tokenize (first ++ second) = tokenize first ++ (tokenize second).map (Token.past first) ↔
      ¬ Joins first second) ∧
    ∀ blanks, blanks ≠ [] → (∀ c ∈ blanks, isWhiteSpace c = true) →
      ((tokenize (first ++ (blanks ++ second))).map Token.lexeme =
          (tokenize (first ++ second)).map Token.lexeme ↔
        ∀ token ∈ tokenize (first ++ second), ¬ token.Straddles (byteLength first)) := by
  have moved : (Scanner.between first second).tokens = (tokenize second).map (Token.past first) := by
    simpa [tokenize_eq_tokens] using Scanner.tokens_between_past first [] second
  constructor
  · constructor
    · intro same joins
      obtain ⟨found, passed, kind, word, more, after, seam⟩ := tokenize_append_of_joins joins
      exact seam.lexemes_ne _ (congrArg (List.map Token.lexeme) same)
    · intro apart
      rw [tokenize_append_of_not_joins apart, moved]
  · intro blanks nonempty blank
    have spread : (tokenize (first ++ (blanks ++ second))).map Token.lexeme =
        (tokenize first ++ (Scanner.between first second).tokens).map Token.lexeme := by
      rw [tokenize_append_of_not_joins (not_joins_of_blank nonempty blank first second),
        Scanner.tokens_between_blanks blank, List.map_append, List.map_append,
        lexemes_tokens_between, lexemes_tokens_between]
    constructor
    · intro same token member straddles
      have joins := (joins_iff_straddles first second).mpr ⟨token, member, straddles⟩
      obtain ⟨found, passed, kind, word, more, after, seam⟩ := tokenize_append_of_joins joins
      exact seam.lexemes_ne _ (same.symm.trans spread)
    · intro outside
      have apart : ¬ Joins first second := by
        rw [joins_iff_straddles]
        rintro ⟨token, member, straddles⟩
        exact outside token member straddles
      rw [spread, tokenize_append_of_not_joins apart]

/-- A blank in front of the digit of `x1` makes two tokens of one. -/
theorem lexemes_of_blank_inside :
    (tokenize (['x'] ++ ([' '] ++ ['1']))).map Token.lexeme ≠
      (tokenize (['x'] ++ ['1'])).map Token.lexeme := by
  have inserted := (tokenize_append_iff ['x'] ['1']).2 [' '] (List.cons_ne_nil _ _)
    (List.forall_mem_singleton.mpr rfl)
  have lexeme : Lexeme .identifier ['x', '1'] :=
    .identifier rfl (List.forall_mem_singleton.mpr rfl)
  intro same
  refine inserted.mp same (Token.placed [] .identifier ['x', '1']) ?_ (by decide)
  rw [tokenize_eq_tokens]
  exact Scanner.tokens_of_lexeme lexeme [] ▸ List.mem_singleton_self _

end TokenStream
