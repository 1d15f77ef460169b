import TokenStream.Proofs.Boundary
import TokenStream.Proofs.Resumption
import TokenStream.Proofs.Trace

namespace TokenStream

open TokenStream.Text

theorem eq_nil_of_byteLength_le {before rest : List Char}
    (ended : byteLength (before ++ rest) ≤ byteLength before) : rest = [] := by
  by_contra more
  have width := byteLength_pos more
  rw [byteLength_append] at ended
  omega

namespace Scanner.OnBoundary

variable {text : List Char} {scanner : Scanner}

theorem boundary (stands : scanner.OnBoundary text) : Boundary text scanner.offset := by
  obtain ⟨before, rest, split, rfl⟩ := stands
  exact ⟨before, rest, split, (offset_between before rest).symm⟩

theorem offset_le (stands : scanner.OnBoundary text) : scanner.offset ≤ byteLength text := by
  obtain ⟨before, rest, rfl, rfl⟩ := stands
  rw [offset_between, byteLength_append]
  exact Nat.le_add_right _ _

theorem offset_lt_next (stands : scanner.OnBoundary text)
    (inside : scanner.offset < byteLength text) : scanner.offset < scanner.next.2.offset := by
  obtain ⟨before, rest, rfl, rfl⟩ := stands
  rw [offset_between] at inside ⊢
  rcases blank_or_reads rest with blank | ⟨blanks, kind, word, after, rfl, step⟩
  · rw [next_between_blank blank, offset_between]
    exact inside
  · have width := byteLength_pos step.lexeme.ne_nil
    rw [next_between_reads step, offset_between]
    simp only [byteLength_append]
    omega

theorem offset_next_of_end (stands : scanner.OnBoundary text)
    (ended : byteLength text ≤ scanner.offset) : scanner.next.2.offset = byteLength text := by
  obtain ⟨before, rest, rfl, rfl⟩ := stands
  rw [offset_between] at ended
  obtain rfl := eq_nil_of_byteLength_le ended
  rw [next_between_blank (by simp), offset_between]

end Scanner.OnBoundary

/-- What a scan hands out and where it ends, when it starts behind `before` and `ahead` is left. -/
structure FoundAhead (before ahead : List Char) (token : Token) (reached : Nat) : Prop where
  isEnd_iff : token.isEnd = true ↔ ∀ c ∈ ahead, isWhiteSpace c = true
  ended : token.isEnd = true → reached = byteLength (before ++ ahead) ∧
    token = Token.endAt (Position.ofOffset (before ++ ahead) (byteLength (before ++ ahead)))
  found : token.isEnd = false → ∃ blanks c after, ahead = blanks ++ c :: after ∧
    (∀ d ∈ blanks, isWhiteSpace d = true) ∧ isWhiteSpace c = false ∧
    token.span.start = Position.ofOffset (before ++ ahead) (byteLength (before ++ blanks)) ∧
    token.span.stop = Position.ofOffset (before ++ ahead) reached ∧
    token.span.stop.offset = reached

theorem foundAhead_of_blank (before : List Char) {ahead : List Char}
    (blank : ∀ c ∈ ahead, isWhiteSpace c = true) :
    FoundAhead before ahead (Token.atEndOf (before ++ ahead)) (byteLength (before ++ ahead)) where
  isEnd_iff := iff_of_true rfl blank
  ended _ := by
    rw [Position.ofOffset_byteLength]
    exact ⟨rfl, rfl⟩
  found more := by
    rw [Token.atEndOf, Token.isEnd_endAt] at more
    contradiction

theorem foundAhead_of_reads (before : List Char) {blanks word after : List Char}
    {kind : TokenKind} (step : Reads blanks kind word after) :
    FoundAhead before (blanks ++ (word ++ after)) (Token.placed (before ++ blanks) kind word)
      (byteLength (before ++ (blanks ++ word))) := by
  have more := step.lexeme.isEnd_placed (before ++ blanks)
  obtain ⟨c, later, first⟩ := List.exists_cons_of_ne_nil step.lexeme.ne_nil
  have visible : isWhiteSpace c = false := step.lexeme.not_whiteSpace (by simp [first])
  constructor
  case isEnd_iff =>
      refine iff_of_false (by simp [more]) fun blank => ?_
      have hidden := blank c (by simp [first])
      simp [hidden] at visible
  case ended => simp [more]
  case found =>
      intro _
      have start := Position.ofOffset_boundary (before ++ blanks) (word ++ after)
      have stop := Position.ofOffset_boundary (before ++ (blanks ++ word)) after
      refine ⟨blanks, c, later ++ after, by simp [first], step.blank, visible, ?_, ?_, ?_⟩
      · rw [← List.append_assoc, start]
        rfl
      · simpa [Token.placed] using stop.symm
      · simpa [Token.placed] using Position.walk_start_offset (before ++ (blanks ++ word))

theorem foundAhead_next (before ahead : List Char) :
    FoundAhead before ahead (Scanner.between before ahead).next.1
      (Scanner.between before ahead).next.2.offset := by
  rcases blank_or_reads ahead with blank | ⟨blanks, kind, word, after, rfl, step⟩
  · rw [Scanner.next_between_blank blank, Scanner.offset_between]
    exact foundAhead_of_blank before blank
  · rw [Scanner.next_between_reads step, Scanner.offset_between]
    exact foundAhead_of_reads before step

theorem nextToken_snd (text : List Char) (offset : Nat) :
    (nextToken text offset).2 = (Scanner.resume text offset).next.2.offset := rfl

theorem min_le_offset_resume (text : List Char) (offset : Nat) :
    min offset (byteLength text) ≤ (Scanner.resume text offset).offset :=
  (isLeast_splitAtByte offset text).1.2

theorem offset_lt_nextToken {text : List Char} {offset : Nat} (inside : offset < byteLength text) :
    offset < (nextToken text offset).2 := by
  have ready := Scanner.onBoundary_resume text offset
  have aligned := min_le_offset_resume text offset
  rw [nextToken_snd]
  by_cases left : (Scanner.resume text offset).offset < byteLength text
  · have moved := ready.offset_lt_next left
    omega
  · rw [ready.offset_next_of_end (Nat.le_of_not_lt left)]
    exact inside

/-- What a scan from an offset hands out and where it ends: at a boundary and, short of the end of the
text, behind the offset. -/
structure MovesOn (text : List Char) (offset : Nat) (token : Token) (reached : Nat) : Prop where
  inside : reached ≤ byteLength text
  boundary : Boundary text reached
  behind : offset < byteLength text → offset < reached
  past : byteLength text ≤ offset → token.isEnd = true ∧ reached = byteLength text
  found : ∃ before ahead, text = before ++ ahead ∧
    byteLength before = (Position.ofOffset text offset).offset ∧
    FoundAhead before ahead token reached

theorem movesOn_next (text : List Char) (offset : Nat) :
    MovesOn text offset (Scanner.resume text offset).next.1
      (Scanner.resume text offset).next.2.offset := by
  have behind := (Scanner.onBoundary_resume text offset).next
  have aligned := min_le_offset_resume text offset
  obtain ⟨before, ahead, split, stands⟩ := Scanner.onBoundary_resume text offset
  have found := foundAhead_next before ahead
  rw [← stands] at found
  have place : (Scanner.resume text offset).offset = byteLength before := by
    rw [stands, Scanner.offset_between]
  refine ⟨behind.offset_le, behind.boundary, offset_lt_nextToken, fun past => ?_,
    before, ahead, split, place.symm, found⟩
  have nothing : byteLength (before ++ ahead) ≤ byteLength before := by
    rw [← split]
    omega
  have ends := found.isEnd_iff.mpr (by simp [eq_nil_of_byteLength_le nothing])
  have ended := (found.ended ends).1
  rw [← split] at ended
  exact ⟨ends, ended⟩

/-- A scan that is started at any offset ends at a character boundary and, short of the end of the text,
behind the offset.  It finds the end just if only white space is left from the offset's place on,
and else the token that the first other character starts. -/
theorem nextToken_moves_on (text : List Char) (offset : Nat) :
    let token := (nextToken text offset).1
    let reached := (nextToken text offset).2
    reached ≤ byteLength text ∧ Boundary text reached ∧
      (offset < byteLength text → offset < reached) ∧
      (byteLength text ≤ offset → token.isEnd = true ∧ reached = byteLength text) ∧
      ∃ before ahead, text = before ++ ahead ∧
        byteLength before = (Position.ofOffset text offset).offset ∧
        FoundAhead before ahead token reached := by
  have moves := movesOn_next text offset
  exact ⟨moves.inside, moves.boundary, moves.behind, moves.past, moves.found⟩

namespace Cursor

/-- The cursor after a number of calls of `consume`. -/
def afterConsuming (text : List Char) : Nat → Cursor
  | 0 => ofText text
  | calls + 1 => (afterConsuming text calls).consume.cursor

theorem afterConsuming_eq_onToken (text : List Char) (calls : Nat) :
    afterConsuming text calls = onToken text calls := by
  induction calls with
  | zero => exact ofText_eq_onToken text
  | succ calls ih => rw [afterConsuming, ih, consume, advance_onToken]

theorem onBoundary_afterConsuming (text : List Char) (calls : Nat) :
    (afterConsuming text calls).scanner.OnBoundary text := by
  induction calls with
  | zero => exact (Scanner.onBoundary_ofText text).next.next
  | succ calls ih => exact ih.next

theorem hasNext_of_offset_lt {text : List Char} {calls : Nat}
    (inside : (afterConsuming text calls).offset < byteLength text) :
    (afterConsuming text calls).hasNext = true := by
  rw [afterConsuming_eq_onToken] at inside ⊢
  rw [hasNext_onToken, decide_eq_true_iff, ← tokenize_eq_tokens]
  by_contra ended
  have atEnd := offset_onToken_of_length_le (Nat.le_succ_of_le (Nat.le_of_not_lt ended))
  omega

/-- A call of `consume` moves the place of a cursor if there is a token to consume and the place is not at
the end of the text yet.  From there on it stays. -/
theorem consume_moves_until_end (text : List Char) (calls : Nat) :
    let cursor := afterConsuming text calls
    (cursor.offset < cursor.consume.cursor.offset ↔
        cursor.hasNext = true ∧ cursor.offset < byteLength text) ∧
      (cursor.offset < cursor.consume.cursor.offset ∨
        cursor.offset = byteLength text ∧ cursor.consume.cursor.offset = byteLength text) := by
  intro cursor
  have stands : cursor.scanner.OnBoundary text := onBoundary_afterConsuming text calls
  have moves : cursor.offset < byteLength text → cursor.offset < cursor.consume.cursor.offset :=
    stands.offset_lt_next
  have within : cursor.consume.cursor.offset ≤ byteLength text := stands.next.offset_le
  refine ⟨⟨fun moved => ?_, fun inside => moves inside.2⟩, ?_⟩
  · have inside : cursor.offset < byteLength text := Nat.lt_of_lt_of_le moved within
    exact ⟨hasNext_of_offset_lt inside, inside⟩
  · by_cases inside : cursor.offset < byteLength text
    · exact .inl (moves inside)
    · have ended : byteLength text ≤ cursor.offset := Nat.le_of_not_lt inside
      exact .inr ⟨Nat.le_antisymm stands.offset_le ended, stands.offset_next_of_end ended⟩

/-- A text of one letter has been read to its end before the letter is consumed. -/
theorem not_consume_always_moves :
    ¬ ∀ (text : List Char) (calls : Nat), (afterConsuming text calls).hasNext = true →
      (afterConsuming text calls).offset < (afterConsuming text calls).consume.cursor.offset := by
  intro always
  have moved := always ['a'] 0
  revert moved
  decide

end Cursor

end TokenStream
