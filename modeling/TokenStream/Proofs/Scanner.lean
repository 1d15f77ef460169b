import TokenStream.Proofs.Lexeme
import TokenStream.Proofs.Position

namespace TokenStream

open TokenStream.Text

/-! What one call of a scanner does, and from it what a whole scan does.

A scanner over a text is settled by where it stands, so `between before rest` is the
scanner that has passed `before` and has `rest` ahead.  One call drops blanks and
then either finds the end of the text (`next_between_blank`) or takes the longest
lexeme (`next_between_reads`).  A text is nothing but such steps
(`scan_induction`), and the lemmas on whole scans follow that induction.
-/

/-- What is ahead is `blanks ++ (word ++ after)` and a scanner takes `word` out of it. -/
structure Reads (blanks : List Char) (kind : TokenKind) (word after : List Char) : Prop where
  blank : ∀ c ∈ blanks, isWhiteSpace c = true
  lexeme : Lexeme kind word
  stops : Stops kind after

theorem blank_or_reads (text : List Char) :
    (∀ c ∈ text, isWhiteSpace c = true) ∨
      ∃ blanks kind word after, text = blanks ++ (word ++ after) ∧ Reads blanks kind word after := by
  have whole := List.takeWhile_append_dropWhile (p := isWhiteSpace) (l := text)
  have blank : ∀ c ∈ text.takeWhile isWhiteSpace, isWhiteSpace c = true :=
    fun c member => List.mem_takeWhile_imp member
  cases found : text.dropWhile isWhiteSpace with
  | nil =>
      left
      rw [found, List.append_nil] at whole
      rwa [whole] at blank
  | cons c behind =>
      right
      have visible : CharClass.of c ≠ .whiteSpace := by
        have stopped := List.head?_dropWhile_not isWhiteSpace text
        rw [found] at stopped
        intro same
        have inside : isWhiteSpace c = true := CharClass.of_eq_iff.mp same
        simp [inside] at stopped
      let kind := TokenKind.startedBy (CharClass.of c)
      refine ⟨text.takeWhile isWhiteSpace, kind, c :: behind.takeWhile kind.continuesWith,
        behind.dropWhile kind.continuesWith, ?_, blank, ?_, stops_dropWhile kind behind⟩
      · rw [List.cons_append, List.takeWhile_append_dropWhile, ← found, whole]
      · exact lexeme_of_started visible fun d member => List.mem_takeWhile_imp member

/-- A text falls apart into blanks and lexemes, and blanks at its end. -/
theorem scan_induction {motive : List Char → List Char → Prop}
    (ends : ∀ before blanks, (∀ c ∈ blanks, isWhiteSpace c = true) → motive before blanks)
    (reads : ∀ before blanks kind word after, Reads blanks kind word after →
      motive (before ++ (blanks ++ word)) after → motive before (blanks ++ (word ++ after)))
    (before rest : List Char) : motive before rest := by
  rcases blank_or_reads rest with blank | ⟨blanks, kind, word, after, split, step⟩
  · exact ends before rest blank
  · rw [split]
    exact reads before blanks kind word after step
      (scan_induction ends reads (before ++ (blanks ++ word)) after)
termination_by rest.length
decreasing_by
  have nonempty := List.length_pos_iff.mpr step.lexeme.ne_nil
  simp only [split, List.length_append]
  omega

def Token.placed (before : List Char) (kind : TokenKind) (word : List Char) : Token :=
  { kind, text := word,
    span := { start := Position.start.walk before, stop := Position.start.walk (before ++ word) } }

def Token.atEndOf (text : List Char) : Token :=
  Token.endAt (Position.start.walk text)

theorem Lexeme.isEnd_placed {kind : TokenKind} {word : List Char} (lexeme : Lexeme kind word)
    (before : List Char) : (Token.placed before kind word).isEnd = false := by
  simpa [Token.placed, Token.isEnd] using lexeme.ne_endOfInput

namespace Scanner

/-- The scanner that has passed `before` and has `rest` ahead. -/
def between (before rest : List Char) : Scanner :=
  { input := before ++ rest, position := Position.start.walk before, rest }

theorem ofText_eq_between (text : List Char) : ofText text = between [] text := rfl

theorem resume_boundary (before rest : List Char) :
    resume (before ++ rest) (byteLength before) = between before rest := by
  simp [resume, between, splitAtByte_boundary, Position.walk_start]

theorem offset_between (before rest : List Char) :
    (between before rest).offset = byteLength before :=
  Position.walk_start_offset before

variable {before rest blanks word after : List Char} {kind : TokenKind}

theorem next_between_blank (blank : ∀ c ∈ rest, isWhiteSpace c = true) :
    (between before rest).next = (Token.atEndOf (before ++ rest), between (before ++ rest) []) := by
  have taken : rest.takeWhile isWhiteSpace = rest := List.takeWhile_eq_self_iff.mpr blank
  have dropped : rest.dropWhile isWhiteSpace = [] := List.dropWhile_eq_nil_iff.mpr blank
  simp [next, pass, between, taken, dropped, Token.atEndOf, Position.walk_append]

theorem next_between_reads (step : Reads blanks kind word after) :
    (between before (blanks ++ (word ++ after))).next =
      (Token.placed (before ++ blanks) kind word, between (before ++ (blanks ++ word)) after) := by
  obtain ⟨c, tail, rfl⟩ := List.exists_cons_of_ne_nil step.lexeme.ne_nil
  obtain ⟨_, rfl, later⟩ := started_of_lexeme step.lexeme
  have visible : isWhiteSpace c = false := step.lexeme.not_whiteSpace List.mem_cons_self
  have run := takeWhile_run later step.stops
  simp [next, pass, between, take, List.takeWhile_append_of_pos step.blank,
    List.dropWhile_append_of_pos step.blank, visible, run.1, run.2, Token.placed,
    Position.walk_append]

theorem tokens_between_blank (blank : ∀ c ∈ rest, isWhiteSpace c = true) :
    (between before rest).tokens = [] := by
  rw [tokens, next_between_blank blank]
  simp [Token.atEndOf]

theorem tokens_between_reads (step : Reads blanks kind word after) :
    (between before (blanks ++ (word ++ after))).tokens =
      Token.placed (before ++ blanks) kind word ::
        (between (before ++ (blanks ++ word)) after).tokens := by
  rw [tokens, next_between_reads step]
  simp [step.lexeme.isEnd_placed]

theorem mem_tokens_between {token : Token} (member : token ∈ (between before rest).tokens) :
    ∃ passed kind word after, rest = passed ++ (word ++ after) ∧ Lexeme kind word ∧
      Stops kind after ∧ token = Token.placed (before ++ passed) kind word := by
  induction before, rest using scan_induction with
  | ends before blanks blank => simp [tokens_between_blank blank] at member
  | reads before blanks kind word after step ih =>
      rw [tokens_between_reads step] at member
      rcases List.mem_cons.mp member with rfl | later
      · exact ⟨blanks, kind, word, after, rfl, step.lexeme, step.stops, rfl⟩
      · obtain ⟨passed, kind', word', after', split, lexeme, stops, rfl⟩ := ih later
        exact ⟨blanks ++ (word ++ passed), kind', word', after', by simp [split], lexeme, stops,
          by simp⟩

theorem isEnd_of_mem_tokens {token : Token} (member : token ∈ (between before rest).tokens) :
    token.isEnd = false := by
  obtain ⟨passed, kind, word, after, _, lexeme, _, rfl⟩ := mem_tokens_between member
  exact lexeme.isEnd_placed (before ++ passed)

theorem start_of_mem_tokens {token : Token} (member : token ∈ (between before rest).tokens) :
    byteLength before ≤ token.span.start.offset := by
  obtain ⟨passed, kind, word, after, _, _, _, rfl⟩ := mem_tokens_between member
  simp [Token.placed, Position.walk_start_offset]

theorem tokens_ordered (before rest : List Char) :
    (between before rest).tokens.Pairwise
      fun earlier later => earlier.span.stop.offset ≤ later.span.start.offset := by
  induction before, rest using scan_induction with
  | ends before blanks blank => simp [tokens_between_blank blank]
  | reads before blanks kind word after step ih =>
      rw [tokens_between_reads step]
      refine List.pairwise_cons.mpr ⟨fun later member => ?_, ih⟩
      have behind := start_of_mem_tokens member
      simpa [Token.placed, Position.walk_start_offset] using behind

theorem tokens_text (before rest : List Char) :
    (between before rest).tokens.flatMap Token.text = rest.filter fun c => !isWhiteSpace c := by
  induction before, rest using scan_induction with
  | ends before blanks blank =>
      have dropped : blanks.filter (fun c => !isWhiteSpace c) = [] := by simpa using blank
      rw [tokens_between_blank blank, dropped, List.flatMap_nil]
  | reads before blanks kind word after step ih =>
      have dropped : blanks.filter (fun c => !isWhiteSpace c) = [] := by simpa using step.blank
      have kept : word.filter (fun c => !isWhiteSpace c) = word := by
        simpa using fun c => step.lexeme.not_whiteSpace (c := c)
      rw [tokens_between_reads step, List.flatMap_cons, ih, List.filter_append, List.filter_append,
        dropped, kept, List.nil_append]
      rfl

theorem next_position (scanner : Scanner) :
    scanner.next.2.position = scanner.next.1.span.stop := by
  cases found : (scanner.pass isWhiteSpace).rest <;>
    simp [next, found, take, Token.endAt, Span.point]

/-- A call hands out the first of the tokens ahead, or the end where none is. -/
theorem next_between (before rest : List Char) :
    (between before rest).next.1 =
        (between before rest).tokens.head?.getD (Token.atEndOf (before ++ rest)) ∧
      ∃ passed ahead, before ++ rest = passed ++ ahead ∧
        (between before rest).next.2 = between passed ahead ∧
        (between passed ahead).tokens = (between before rest).tokens.tail := by
  rcases blank_or_reads rest with blank | ⟨blanks, kind, word, after, rfl, step⟩
  · rw [next_between_blank blank, tokens_between_blank blank]
    refine ⟨rfl, before ++ rest, [], by simp, rfl, ?_⟩
    exact tokens_between_blank (by simp)
  · rw [next_between_reads step, tokens_between_reads step]
    exact ⟨rfl, before ++ (blanks ++ word), after, by simp, rfl, rfl⟩

def skip (scanner : Scanner) : Nat → Scanner
  | 0 => scanner
  | count + 1 => (scanner.skip count).next.2

theorem skip_between (before rest : List Char) (count : Nat) :
    ∃ passed ahead, before ++ rest = passed ++ ahead ∧
      (between before rest).skip count = between passed ahead ∧
      (between passed ahead).tokens = (between before rest).tokens.drop count := by
  induction count with
  | zero => exact ⟨before, rest, rfl, rfl, rfl⟩
  | succ count ih =>
      obtain ⟨passed, ahead, split, stands, left⟩ := ih
      obtain ⟨_, passed', ahead', split', stands', left'⟩ := next_between passed ahead
      refine ⟨passed', ahead', split.trans split', ?_, ?_⟩
      · rw [skip, stands, stands']
      · rw [left', left, List.tail_drop]

theorem next_skip_between (before rest : List Char) (count : Nat) :
    ((between before rest).skip count).next.1 =
      (between before rest).tokens[count]?.getD (Token.atEndOf (before ++ rest)) := by
  obtain ⟨passed, ahead, split, stands, left⟩ := skip_between before rest count
  rw [stands, (next_between passed ahead).1, left, List.head?_drop, split]

theorem skip_between_of_length_le {count : Nat}
    (ended : (between before rest).tokens.length ≤ count) :
    (between before rest).skip (count + 1) = between (before ++ rest) [] := by
  obtain ⟨passed, ahead, split, stands, left⟩ := skip_between before rest count
  rw [List.drop_eq_nil_of_le ended] at left
  rw [skip, stands, split]
  rcases blank_or_reads ahead with blank | ⟨blanks, kind, word, after, rfl, step⟩
  · rw [next_between_blank blank]
  · simp [tokens_between_reads step] at left

end Scanner

end TokenStream
