import TokenStream.Proofs.Concatenation
import TokenStream.Proofs.Coverage
import TokenStream.Proofs.Resumption

namespace TokenStream

open TokenStream.Text

/-- What is left of a token of the kind, cut into tokens of its own. -/
inductive Remainder (kind : TokenKind) (before : List Char) : List Char → List Token → Prop
  | whole (lexeme : Lexeme kind' word) : Remainder kind before word [Token.placed before kind' word]
  | digitsFirst (inside : kind = .identifier) (number : Lexeme .number digits)
      (identifier : Lexeme .identifier letters) :
      Remainder kind before (digits ++ letters)
        [Token.placed before .number digits, Token.placed (before ++ digits) .identifier letters]

theorem isIdentifierStart_of_continue {c : Char} (goesOn : isIdentifierContinue c = true)
    (noDigit : isDecimalDigit c = false) : isIdentifierStart c = true := by
  simpa [isIdentifierContinue, noDigit] using goesOn

/-- Digits make identifiers longer too, so where an identifier ends a number ends. -/
theorem Stops.number_of_identifier {after : List Char} (stops : Stops .identifier after) :
    Stops .number after := by
  intro c next longer
  cases longer with
  | number digit => exact stops c next (.identifier (by simp [isIdentifierContinue, digit]))

theorem tokens_between_remainder {kind : TokenKind} {more after : List Char} (before : List Char)
    (nonempty : more ≠ []) (goesOn : ∀ c ∈ more, kind.continuesWith c = true)
    (stops : Stops kind after) :
    ∃ pieces, Remainder kind before more pieces ∧
      (Scanner.between before (more ++ after)).tokens =
        pieces ++ (Scanner.between (before ++ more) after).tokens := by
  have single {kind' : TokenKind} (lexeme : Lexeme kind' more) (ends : Stops kind' after) :
      ∃ pieces, Remainder kind before more pieces ∧
        (Scanner.between before (more ++ after)).tokens =
          pieces ++ (Scanner.between (before ++ more) after).tokens :=
    ⟨_, .whole lexeme, Scanner.tokens_between_lexeme lexeme ends before⟩
  cases kind with
  | number => exact single (.number nonempty goesOn) stops
  | operator => exact single (.operator nonempty goesOn) stops
  | special | other | endOfInput =>
      exact absurd (eq_nil_of_never (fun _ => rfl) goesOn) nonempty
  | identifier =>
      obtain ⟨digits, letters, rfl, allDigits, ends⟩ : ∃ digits letters, more = digits ++ letters ∧
          (∀ c ∈ digits, isDecimalDigit c = true) ∧ Stops .number letters :=
        ⟨more.takeWhile isDecimalDigit, more.dropWhile isDecimalDigit,
          List.takeWhile_append_dropWhile.symm, fun c member => List.mem_takeWhile_imp member,
          stops_dropWhile .number more⟩
      cases letters with
      | nil => exact single (.number nonempty (by simpa using allDigits)) stops.number_of_identifier
      | cons c letters =>
          have noDigit : isDecimalDigit c = false := ends.continuesWith (c := c) rfl
          have identifier : Lexeme .identifier (c :: letters) :=
            .identifier (isIdentifierStart_of_continue (goesOn c (by simp)) noDigit)
              fun d member => goesOn d (by simp [member])
          cases digits with
          | nil => exact single identifier stops
          | cons d digits =>
              have number : Lexeme .number (d :: digits) := .number (by simp) allDigits
              have endsThere : Stops .number (c :: letters ++ after) := ends
              refine ⟨_, .digitsFirst rfl number identifier, ?_⟩
              rw [List.append_assoc, Scanner.tokens_between_lexeme number endsThere,
                Scanner.tokens_between_lexeme identifier stops, List.append_assoc]
              rfl

/-- The pieces are what a token of the text holds from a byte offset on: one token, or a number and an
identifier that an identifier ends with. -/
structure Fragment (text : List Char) (token : Token) (offset : Nat) (pieces : List Token) :
    Prop where
  slice : Slice text offset token.span.stop.offset (pieces.flatMap Token.text)
  exact : ∀ piece ∈ pieces, piece.Exact text
  shape : (∃ piece, pieces = [piece]) ∨
    token.kind = .identifier ∧ ∃ number identifier, pieces = [number, identifier] ∧
      number.kind = .number ∧ identifier.kind = .identifier

namespace Remainder

variable {kind : TokenKind} {before more after : List Char} {pieces : List Token}

theorem text (remainder : Remainder kind before more pieces) :
    pieces.flatMap Token.text = more := by
  cases remainder <;> simp [Token.placed]

theorem exact (remainder : Remainder kind before more pieces) (after : List Char) :
    ∀ piece ∈ pieces, piece.Exact (before ++ (more ++ after)) := by
  cases remainder with
  | whole lexeme => simpa using lexeme.exact_placed before after
  | @digitsFirst digits letters inside number identifier =>
      have first := number.exact_placed before (letters ++ after)
      have second := identifier.exact_placed (before ++ digits) after
      rw [List.append_assoc] at second ⊢
      simpa using ⟨first, second⟩

theorem shape (remainder : Remainder kind before more pieces) :
    (∃ piece, pieces = [piece]) ∨ kind = .identifier ∧ ∃ number identifier,
      pieces = [number, identifier] ∧ number.kind = .number ∧ identifier.kind = .identifier := by
  cases remainder with
  | whole lexeme => exact .inl ⟨_, rfl⟩
  | digitsFirst inside number identifier => exact .inr ⟨inside, _, _, rfl, rfl, rfl⟩

end Remainder

theorem Seam.fragment {first second passed word more after : List Char} {found pieces : List Token}
    {kind : TokenKind} (seam : Seam first second found passed kind word more after)
    (remainder : Remainder kind first more pieces) :
    Fragment (first ++ second) (Token.placed passed kind (word ++ more)) (byteLength first)
      pieces where
  slice := by
    refine ⟨first, after, by rw [remainder.text, seam.right], rfl, ?_⟩
    rw [remainder.text, seam.left, List.append_assoc]
    exact (Position.walk_start_offset _).symm
  exact := by
    rw [seam.right]
    exact remainder.exact after
  shape := remainder.shape

/-- Of tokens found in front of an offset and behind it, those that start behind it. -/
theorem filter_start {earlier later : List Token} {offset : Nat}
    (front : ∀ token ∈ earlier, token.span.start.offset < offset)
    (behind : ∀ token ∈ later, offset ≤ token.span.start.offset) :
    (earlier ++ later).filter (fun token => offset ≤ token.span.start.offset) = later := by
  rw [List.filter_append]
  have none : earlier.filter (fun token => offset ≤ token.span.start.offset) = [] := by
    simpa using front
  have all : later.filter (fun token => offset ≤ token.span.start.offset) = later := by
    simpa using behind
  rw [none, all, List.nil_append]

theorem tokens_between_synchronized (before rest : List Char) :
    ∃ pieces, (Scanner.between before rest).tokens =
        pieces ++ (tokenize (before ++ rest)).filter
          (fun token => byteLength before ≤ token.span.start.offset) ∧
      ((∀ token ∈ tokenize (before ++ rest), ¬ token.Straddles (byteLength before)) → pieces = []) ∧
      ∀ token ∈ tokenize (before ++ rest), token.Straddles (byteLength before) →
        Fragment (before ++ rest) token (byteLength before) pieces := by
  have front (token : Token) (member : token ∈ tokenize before) :
      token.span.start.offset < byteLength before := by
    have inside := span_of_mem_tokenize member
    omega
  by_cases joins : Joins before rest
  · obtain ⟨found, passed, kind, word, more, after, seam⟩ := tokenize_append_of_joins joins
    obtain ⟨pieces, remainder, scan⟩ :=
      tokens_between_remainder before seam.nonempty seam.goesOn seam.stops
    have reached : passed ++ (word ++ more) = before ++ more := by
      rw [seam.left, List.append_assoc]
    have whole : tokenize (before ++ rest) =
        (found ++ [Token.placed passed kind (word ++ more)]) ++
          (Scanner.between (before ++ more) after).tokens := by
      rw [seam.joined, reached, List.append_assoc, List.singleton_append]
    have behind : ∀ token ∈ (Scanner.between (before ++ more) after).tokens,
        byteLength before ≤ token.span.start.offset := by
      intro token member
      have ahead := Scanner.start_of_mem_tokens member
      simp only [byteLength_append] at ahead
      omega
    have earlier : ∀ token ∈ found, token ∈ tokenize before := by
      intro token member
      rw [seam.alone]
      exact List.mem_append_left _ member
    refine ⟨pieces, ?_, ?_, ?_⟩
    · rw [whole, filter_start ?_ behind, ← scan, seam.right]
      exact List.forall_mem_append.mpr ⟨fun token member => front token (earlier token member),
        List.forall_mem_singleton.mpr seam.straddles.1⟩
    · intro outside
      exact absurd seam.straddles (outside _ seam.mem)
    · -- No other token than the one at the seam lies on both sides.
      intro token member straddles
      rw [whole] at member
      rcases List.mem_append.mp member with inFront | inLater
      · rcases List.mem_append.mp inFront with inFound | atSeam
        · have inside := span_of_mem_tokenize (earlier token inFound)
          exact absurd straddles.2 (by omega)
        · rw [List.mem_singleton.mp atSeam]
          exact seam.fragment remainder
      · exact absurd straddles.1 (Nat.not_lt.mpr (behind token inLater))
  · rw [tokenize_append_of_not_joins joins,
      filter_start front fun token member => Scanner.start_of_mem_tokens member]
    refine ⟨[], rfl, fun _ => rfl, ?_⟩
    intro token member straddles
    rw [← tokenize_append_of_not_joins joins] at member
    exact absurd ((joins_iff_straddles before rest).mpr ⟨token, member, straddles⟩) joins

/-- A scanner that is made for any offset of a text hands out the tokens of the text that start at its
place or behind it.  If its place is inside a token it hands out what is left of that token first,
and else nothing. -/
theorem tokens_resume (text : List Char) (offset : Nat) :
    let place := (Position.ofOffset text offset).offset
    ∃ pieces, (Scanner.resume text offset).tokens =
        pieces ++ (tokenize text).filter (fun token => place ≤ token.span.start.offset) ∧
      ((∀ token ∈ tokenize text, ¬ token.Straddles place) → pieces = []) ∧
      ∀ token ∈ tokenize text, token.Straddles place → Fragment text token place pieces := by
  intro place
  obtain ⟨before, rest, rfl, stands⟩ := Scanner.onBoundary_resume text offset
  have reached : place = byteLength before := by
    rw [← Scanner.offset_between before rest, ← stands]
    rfl
  rw [stands, reached]
  exact tokens_between_synchronized before rest

/-- A scan that starts behind the letter that `a1b` begins with. -/
theorem tokens_resume_inside_identifier :
    ∃ pieces, (Scanner.resume ['a', '1', 'b'] 1).tokens =
        pieces ++ (tokenize ['a', '1', 'b']).filter (fun token => 1 ≤ token.span.start.offset) ∧
      Fragment ['a', '1', 'b'] (Token.placed [] .identifier ['a', '1', 'b']) 1 pieces := by
  have lexeme : Lexeme .identifier ['a', '1', 'b'] :=
    .identifier rfl (List.forall_mem_cons.mpr ⟨rfl, List.forall_mem_singleton.mpr rfl⟩)
  obtain ⟨pieces, scan, _, cut⟩ := tokens_resume ['a', '1', 'b'] 1
  refine ⟨pieces, scan, cut _ ?_ (by decide)⟩
  rw [tokenize_eq_tokens]
  exact Scanner.tokens_of_lexeme lexeme [] ▸ List.mem_singleton_self _

end TokenStream
