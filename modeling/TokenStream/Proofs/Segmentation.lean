import TokenStream.Proofs.Coverage

namespace TokenStream

open TokenStream.Text

/-! Tokenizing is the one way to cut a text by the longest match.

`Segmentation` says what a cut by the longest match is, without a scanner: which
byte ranges of a text are pieces, where they must end and what may lie between
them.  The tokens of a scanner are such a cut (`segmentation_tokens`), and whatever
is one starts with the scanner's next token (`eq_tokens_of_segmentation`).
-/

structure Piece where
  kind : TokenKind
  first : Nat
  last : Nat
deriving Repr, DecidableEq

def Token.piece (token : Token) : Piece :=
  { kind := token.kind, first := token.span.start.offset, last := token.span.stop.offset }

def Piece.Holds (piece : Piece) (offset : Nat) : Prop :=
  piece.first ≤ offset ∧ offset < piece.last

/-- The pieces cut a text by the longest match from the byte offset `start` on: ranges that are not
empty, begin and end between characters and follow one another, each with a lexeme of its kind
that the next character does not extend, and nothing but white space outside. -/
structure Segmentation (text : List Char) (start : Nat) (pieces : List Piece) : Prop where
  within : ∀ piece ∈ pieces, start ≤ piece.first
  nonempty : ∀ piece ∈ pieces, piece.first < piece.last
  ordered : pieces.Pairwise fun earlier later => earlier.last ≤ later.first
  lexeme : ∀ piece ∈ pieces,
    ∃ word, Slice text piece.first piece.last word ∧ Lexeme piece.kind word
  longest : ∀ piece ∈ pieces, ∀ before c after, text = before ++ c :: after →
    byteLength before = piece.last → ¬ Extends piece.kind c
  blank : ∀ before c after, text = before ++ c :: after → start ≤ byteLength before →
    (∀ piece ∈ pieces, ¬ piece.Holds (byteLength before)) → isWhiteSpace c = true

namespace Segmentation

variable {text : List Char} {start : Nat} {piece : Piece} {pieces later : List Piece}

theorem tail (cut : Segmentation text start (piece :: later)) :
    Segmentation text piece.last later where
  within := (List.pairwise_cons.mp cut.ordered).1
  nonempty other member := cut.nonempty other (List.mem_cons_of_mem piece member)
  ordered := (List.pairwise_cons.mp cut.ordered).2
  lexeme other member := cut.lexeme other (List.mem_cons_of_mem piece member)
  longest other member := cut.longest other (List.mem_cons_of_mem piece member)
  blank before c after split behind outside := by
    have first := cut.within piece List.mem_cons_self
    have width := cut.nonempty piece List.mem_cons_self
    refine cut.blank before c after split (by omega) ?_
    intro other member held
    rcases List.mem_cons.mp member with rfl | inLater
    · exact Nat.not_lt.mpr behind held.2
    · exact outside other inLater held

theorem head_of_visible (cut : Segmentation text start pieces) {before after : List Char} {c : Char}
    (split : text = before ++ c :: after) (ahead : start ≤ byteLength before)
    (visible : isWhiteSpace c = false) :
    ∃ piece later, pieces = piece :: later ∧ piece.first ≤ byteLength before := by
  obtain ⟨holder, member, held⟩ : ∃ holder ∈ pieces, holder.Holds (byteLength before) := by
    apply Classical.byContradiction
    intro nowhere
    have white := cut.blank before c after split ahead fun piece member held =>
      nowhere ⟨piece, member, held⟩
    simp [white] at visible
  cases pieces with
  | nil => contradiction
  | cons piece later =>
      refine ⟨piece, later, rfl, ?_⟩
      rcases List.mem_cons.mp member with rfl | inLater
      · exact held.1
      · have width := cut.nonempty piece List.mem_cons_self
        have behind := cut.tail.within holder inLater
        have inside := held.1
        omega

end Segmentation

theorem Lexeme.blanks_eq_nil {kind : TokenKind} {word blanks after rest : List Char}
    (lexeme : Lexeme kind word) (blank : ∀ c ∈ blanks, isWhiteSpace c = true)
    (same : word ++ after = blanks ++ rest) : blanks = [] := by
  cases blanks with
  | nil => rfl
  | cons c blanks =>
      obtain ⟨d, tail, rfl⟩ := List.exists_cons_of_ne_nil lexeme.ne_nil
      simp only [List.cons_append, List.cons.injEq] at same
      obtain ⟨rfl, _⟩ := same
      have white := blank d List.mem_cons_self
      simp [lexeme.not_whiteSpace List.mem_cons_self] at white

theorem piece_placed (before : List Char) (kind : TokenKind) (word : List Char) :
    (Token.placed before kind word).piece =
      { kind, first := byteLength before, last := byteLength (before ++ word) } := by
  simp [Token.piece, Token.placed, Position.walk_start_offset]

/-- The tokens that a scanner has ahead cut what is ahead of it by the longest match. -/
theorem segmentation_tokens (before rest : List Char) :
    Segmentation (before ++ rest) (byteLength before)
      ((Scanner.between before rest).tokens.map Token.piece) where
  within := by
    intro piece member
    obtain ⟨token, inTokens, rfl⟩ := List.mem_map.mp member
    exact Scanner.start_of_mem_tokens inTokens
  nonempty := by
    intro piece member
    obtain ⟨token, inTokens, rfl⟩ := List.mem_map.mp member
    obtain ⟨passed, kind, word, after, _, lexeme, _, rfl⟩ := Scanner.mem_tokens_between inTokens
    have width := byteLength_pos lexeme.ne_nil
    rw [piece_placed]
    simp only [byteLength_append]
    omega
  ordered := List.pairwise_map.mpr (Scanner.tokens_ordered before rest)
  lexeme := by
    intro piece member
    obtain ⟨token, inTokens, rfl⟩ := List.mem_map.mp member
    obtain ⟨passed, kind, word, after, rfl, lexeme, _, rfl⟩ := Scanner.mem_tokens_between inTokens
    rw [piece_placed]
    exact ⟨word, ⟨before ++ passed, after, by simp, rfl, rfl⟩, lexeme⟩
  longest := by
    intro piece member before' c after' split level
    obtain ⟨token, inTokens, rfl⟩ := List.mem_map.mp member
    obtain ⟨passed, kind, word, after, rfl, _, stops, rfl⟩ := Scanner.mem_tokens_between inTokens
    rw [piece_placed] at level ⊢
    have same : (before ++ passed ++ word) ++ after = before' ++ c :: after' := by simpa using split
    obtain ⟨_, rfl⟩ := append_inj_of_byteLength same level.symm
    exact stops c rfl
  blank := by
    intro before' c after' split ahead outside
    obtain ⟨passed, rfl, split'⟩ := append_of_byteLength_le split ahead
    have counted := countP_tokens_between before split'
    cases white : isWhiteSpace c with
    | true => rfl
    | false =>
        have found : 0 < (Scanner.between before rest).tokens.countP
            fun token => token.span.holds (byteLength (before ++ passed)) := by
          rw [counted, white]
          decide
        obtain ⟨token, inTokens, held⟩ := List.countP_pos_iff.mp found
        exact absurd (Span.holds_iff.mp held)
          (outside token.piece (List.mem_map.mpr ⟨token, inTokens, rfl⟩))

/-- The first piece of a cut has to be the token that a scanner takes there. -/
theorem head_of_reads {before blanks word after : List Char} {kind : TokenKind}
    {pieces : List Piece} (step : Reads blanks kind word after)
    (cut : Segmentation (before ++ (blanks ++ (word ++ after))) (byteLength before) pieces) :
    ∃ later, pieces = (Token.placed (before ++ blanks) kind word).piece :: later := by
  obtain ⟨c, tail, rfl⟩ := List.exists_cons_of_ne_nil step.lexeme.ne_nil
  have visible : isWhiteSpace c = false := step.lexeme.not_whiteSpace List.mem_cons_self
  have split : before ++ (blanks ++ (c :: tail ++ after)) =
      (before ++ blanks) ++ c :: (tail ++ after) := by simp
  obtain ⟨piece, later, rfl, early⟩ := cut.head_of_visible split (by simp) visible
  obtain ⟨word, ⟨before', after', split', atFirst, atLast⟩, lexeme⟩ :=
    cut.lexeme piece List.mem_cons_self
  -- The piece starts in the blanks, and so at their end.
  have ahead := cut.within piece List.mem_cons_self
  obtain ⟨passed, rfl, rest⟩ := append_of_byteLength_le split' (by omega)
  obtain ⟨left, rfl, same⟩ := append_of_byteLength_le rest.symm
    (by simp only [byteLength_append] at atFirst early; omega)
  obtain rfl : left = [] :=
    lexeme.blanks_eq_nil (fun d member => step.blank d (by simp [member])) same
  have stops : Stops piece.kind after' := by
    intro d next
    obtain ⟨behind, rfl⟩ := List.head?_eq_some_iff.mp next
    exact cut.longest piece List.mem_cons_self _ d behind (by simpa using split') atLast
  obtain ⟨rfl, rfl, rfl⟩ := lexeme.unique stops step.lexeme step.stops same
  rw [piece_placed, List.append_nil, atFirst, atLast]
  exact ⟨later, rfl⟩

theorem eq_tokens_of_segmentation (before rest : List Char) {pieces : List Piece}
    (cut : Segmentation (before ++ rest) (byteLength before) pieces) :
    pieces = (Scanner.between before rest).tokens.map Token.piece := by
  induction before, rest using scan_induction generalizing pieces with
  | ends before blanks blank =>
      rw [Scanner.tokens_between_blank blank]
      cases pieces with
      | nil => rfl
      | cons piece later =>
          exfalso
          have ahead := cut.within piece List.mem_cons_self
          obtain ⟨word, ⟨before', after, split, atFirst, _⟩, lexeme⟩ :=
            cut.lexeme piece List.mem_cons_self
          obtain ⟨passed, rfl, rfl⟩ := append_of_byteLength_le split (by omega)
          obtain ⟨c, word, rfl⟩ := List.exists_cons_of_ne_nil lexeme.ne_nil
          have white := blank c (by simp)
          simp [lexeme.not_whiteSpace List.mem_cons_self] at white
  | reads before blanks kind word after step ih =>
      obtain ⟨later, rfl⟩ := head_of_reads step cut
      have following : Segmentation (before ++ (blanks ++ word) ++ after)
          (byteLength (before ++ (blanks ++ word))) later := by
        simpa [piece_placed] using cut.tail
      rw [Scanner.tokens_between_reads step, List.map_cons, ih following]

/-- Tokenizing is cutting by the longest match, and there is one such cut of a text. -/
theorem segmentation_iff_tokenize (text : List Char) (pieces : List Piece) :
    Segmentation text 0 pieces ↔ pieces = (tokenize text).map Token.piece := by
  rw [tokenize_eq_tokens]
  constructor
  · exact eq_tokens_of_segmentation [] text
  · rintro rfl
    exact segmentation_tokens [] text

end TokenStream
