import TokenStream.Proofs.Cursor

namespace TokenStream

open TokenStream.Text

def classes (text : List Char) : List CharClass :=
  text.map CharClass.of

theorem classes_append_eq_iff {first second text : List Char} :
    classes (first ++ second) = classes text ↔
      ∃ first' second', text = first' ++ second' ∧ classes first = classes first' ∧
        classes second = classes second' := by
  rw [classes, classes, List.map_append, eq_comm, List.map_eq_append_iff]
  simp only [classes, eq_comm]

theorem CharClass.contains_congr {c d : Char} (same : CharClass.of c = CharClass.of d)
    (set : CharClass) : set.contains c = set.contains d := by
  rw [Bool.eq_iff_iff, ← CharClass.of_eq_iff, ← CharClass.of_eq_iff, same]

theorem isWhiteSpace_congr {c d : Char} (same : CharClass.of c = CharClass.of d) :
    isWhiteSpace c = isWhiteSpace d :=
  CharClass.contains_congr same .whiteSpace

theorem TokenKind.continuesWith_congr {c d : Char} (same : CharClass.of c = CharClass.of d)
    (kind : TokenKind) : kind.continuesWith c = kind.continuesWith d := by
  have digit := CharClass.contains_congr same .digit
  have start := CharClass.contains_congr same .identifierStart
  cases kind with
  | number => exact digit
  | identifier => exact congrArg₂ (· || ·) start digit
  | operator => exact CharClass.contains_congr same .operator
  | special | other | endOfInput => rfl

/-- What holds of all characters of a text and is a matter of their class holds of all characters of
a text with the same classes. -/
theorem forall_mem_of_classes {p : Char → Bool}
    (byClass : ∀ c d, CharClass.of c = CharClass.of d → p c = p d) {text text' : List Char}
    (same : classes text = classes text') (all : ∀ c ∈ text, p c = true) :
    ∀ c ∈ text', p c = true := by
  intro d member
  have inside : CharClass.of d ∈ classes text := same ▸ List.mem_map_of_mem member
  obtain ⟨c, inText, alike⟩ := List.mem_map.mp inside
  rw [← byClass c d alike]
  exact all c inText

theorem Lexeme.of_classes {kind : TokenKind} {word word' : List Char} (lexeme : Lexeme kind word)
    (same : classes word = classes word') : Lexeme kind word' := by
  obtain ⟨c, rest, rfl⟩ := List.exists_cons_of_ne_nil lexeme.ne_nil
  obtain ⟨visible, rfl, later⟩ := started_of_lexeme lexeme
  obtain ⟨d, rest', rfl, first, others⟩ := List.map_eq_cons_iff.mp same.symm
  rw [← first] at visible later ⊢
  exact lexeme_of_started visible
    (forall_mem_of_classes (fun _ _ alike => TokenKind.continuesWith_congr alike _) others.symm later)

theorem Stops.of_classes {kind : TokenKind} {after after' : List Char} (stops : Stops kind after)
    (same : classes after = classes after') : Stops kind after' := by
  intro d next longer
  obtain ⟨behind, rfl⟩ := List.head?_eq_some_iff.mp next
  obtain ⟨c, rest, rfl, first, _⟩ := List.map_eq_cons_iff.mp same
  have continued := extends_iff.mp longer
  rw [← TokenKind.continuesWith_congr first] at continued
  exact stops c rfl (extends_iff.mpr continued)

theorem Reads.of_classes {blanks word after text : List Char} {kind : TokenKind}
    (step : Reads blanks kind word after)
    (same : classes (blanks ++ (word ++ after)) = classes text) :
    ∃ blanks' word' after', text = blanks' ++ (word' ++ after') ∧ Reads blanks' kind word' after' ∧
      blanks.length = blanks'.length ∧ word.length = word'.length ∧
      classes after = classes after' := by
  obtain ⟨blanks', behind, rfl, sameBlanks, sameBehind⟩ := classes_append_eq_iff.mp same
  obtain ⟨word', after', rfl, sameWord, sameAfter⟩ := classes_append_eq_iff.mp sameBehind
  refine ⟨blanks', word', after', rfl, ⟨?_, ?_, ?_⟩, ?_, ?_, sameAfter⟩
  · exact forall_mem_of_classes (fun _ _ alike => isWhiteSpace_congr alike) sameBlanks step.blank
  · exact step.lexeme.of_classes sameWord
  · exact step.stops.of_classes sameAfter
  · simpa [classes] using congrArg List.length sameBlanks
  · simpa [classes] using congrArg List.length sameWord

/-- A kind and a range of characters, counted from the start of the text. -/
structure Extent where
  kind : TokenKind
  first : Nat
  last : Nat
deriving Repr, DecidableEq

/-- The token's kind and the numbers of characters in front of its two ends. -/
def Token.extent (text : List Char) (token : Token) : Extent where
  kind := token.kind
  first := (splitAtByte token.span.start.offset text).1.length
  last := (splitAtByte token.span.stop.offset text).1.length

theorem extent_placed (before word after : List Char) (kind : TokenKind) :
    (Token.placed before kind word).extent (before ++ (word ++ after)) =
      { kind, first := before.length, last := before.length + word.length } := by
  have start := splitAtByte_boundary before (word ++ after)
  have stop := splitAtByte_boundary (before ++ word) after
  rw [List.append_assoc] at stop
  simp only [Token.extent, Token.placed, Position.walk_start_offset, start, stop, List.length_append]

theorem extents_between (before before' : List Char) {rest rest' : List Char}
    (level : before.length = before'.length) (same : classes rest = classes rest') :
    (Scanner.between before rest).tokens.map (Token.extent (before ++ rest)) =
      (Scanner.between before' rest').tokens.map (Token.extent (before' ++ rest')) := by
  induction before, rest using scan_induction generalizing before' rest' with
  | ends before blanks blank =>
      have blank' := forall_mem_of_classes (fun _ _ alike => isWhiteSpace_congr alike) same blank
      rw [Scanner.tokens_between_blank blank, Scanner.tokens_between_blank blank', List.map_nil,
        List.map_nil]
  | reads before blanks kind word after step ih =>
      obtain ⟨blanks', word', after', rfl, step', blanksLevel, wordLevel, sameAfter⟩ :=
        step.of_classes same
      have later := ih (before' ++ (blanks' ++ word')) (by simp [level, blanksLevel, wordLevel])
        sameAfter
      have first := extent_placed (before ++ blanks) word after kind
      have first' := extent_placed (before' ++ blanks') word' after' kind
      simp only [List.append_assoc] at later first first'
      rw [Scanner.tokens_between_reads step, Scanner.tokens_between_reads step', List.map_cons,
        List.map_cons, later, first, first']
      simp [level, blanksLevel, wordLevel]

/-- Texts whose characters have the same classes, one by one, have tokens of the same kinds that cover
the same characters. -/
theorem extents_of_classes {first second : List Char} (same : classes first = classes second) :
    (tokenize first).map (Token.extent first) = (tokenize second).map (Token.extent second) := by
  rw [tokenize_eq_tokens, tokenize_eq_tokens]
  exact extents_between [] [] rfl same

/-- Letters, digits, operators and blanks of other widths, and a line break for a blank. -/
theorem extents_of_wider_text :
    classes "x1 <= (2)".toList = classes "é٣\n!| {７}".toList ∧
      (tokenize "x1 <= (2)".toList).map (Token.extent "x1 <= (2)".toList) =
        (tokenize "é٣\n!| {７}".toList).map (Token.extent "é٣\n!| {７}".toList) := by
  have same : classes "x1 <= (2)".toList = classes "é٣\n!| {７}".toList := by decide +kernel
  exact ⟨same, extents_of_classes same⟩

end TokenStream
