import Mathlib.Data.List.Induction
import Mathlib.Data.Prod.Lex
import Mathlib.Order.Monotone.Basic
import TokenStream.Proofs.Boundary
import TokenStream.Proofs.Concatenation
import TokenStream.Proofs.Coverage

namespace TokenStream

open TokenStream.Text

namespace Position

/-- The line first and then the column, which is how places are compared. -/
def lineAndColumn (position : Position) : Nat ×ₗ Nat :=
  toLex (position.line, position.column)

theorem lineAndColumn_lt_iff {first second : Position} :
    first.lineAndColumn < second.lineAndColumn ↔
      first.line < second.line ∨ first.line = second.line ∧ first.column < second.column :=
  Prod.Lex.toLex_lt_toLex

theorem lineAndColumn_advance_lt (position : Position) (c : Char) :
    position.lineAndColumn < (position.advance c).lineAndColumn := by
  rw [lineAndColumn_lt_iff, advance]
  split
  · exact .inl (Nat.lt_succ_self position.line)
  · exact .inr ⟨rfl, Nat.lt_succ_self position.column⟩

theorem lineAndColumn_le_walk (position : Position) (text : List Char) :
    position.lineAndColumn ≤ (position.walk text).lineAndColumn := by
  induction text generalizing position with
  | nil => exact le_refl _
  | cons c text ih =>
      exact (position.lineAndColumn_advance_lt c).le.trans (ih (position.advance c))

theorem lineAndColumn_lt_walk (position : Position) {text : List Char} (nonempty : text ≠ []) :
    position.lineAndColumn < (position.walk text).lineAndColumn := by
  obtain ⟨c, later, rfl⟩ := List.exists_cons_of_ne_nil nonempty
  exact (position.lineAndColumn_advance_lt c).trans_le
    ((position.advance c).lineAndColumn_le_walk later)

theorem strictMonoOn_lineAndColumn (text : List Char) :
    StrictMonoOn (fun offset => (ofOffset text offset).lineAndColumn)
      {bound | Boundary text bound} := by
  intro first isBoundary second isBoundary' earlier
  obtain ⟨before, after, split, rfl⟩ := isBoundary
  obtain ⟨before', after', split', rfl⟩ := isBoundary'
  have here : ofOffset text (byteLength before) = start.walk before := by
    rw [split, ofOffset_boundary]
  have there : ofOffset text (byteLength before') = start.walk before' := by
    rw [split', ofOffset_boundary]
  obtain ⟨between, rfl, _⟩ :=
    append_of_byteLength_le (split.symm.trans split') (Nat.le_of_lt earlier)
  have nonempty : between ≠ [] := by
    rintro rfl
    simp at earlier
  simp only [here, there, walk_append]
  exact lineAndColumn_lt_walk _ nonempty

theorem offset_lt_iff_lineAndColumn_lt (text : List Char) (p q : Nat) :
    (ofOffset text p).offset < (ofOffset text q).offset ↔
      (ofOffset text p).lineAndColumn < (ofOffset text q).lineAndColumn := by
  have order := (strictMonoOn_lineAndColumn text).lt_iff_lt (boundary_ofOffset text p)
    (boundary_ofOffset text q)
  simpa only [ofOffset_offset] using order.symm

theorem lineAndColumn_eq_iff (text : List Char) (p q : Nat) :
    (ofOffset text p).lineAndColumn = (ofOffset text q).lineAndColumn ↔
      ofOffset text p = ofOffset text q := by
  refine ⟨fun level => ?_, congrArg lineAndColumn⟩
  have same : (ofOffset text p).offset = (ofOffset text q).offset :=
    (strictMonoOn_lineAndColumn text).injOn (boundary_ofOffset text p) (boundary_ofOffset text q)
      (by simpa only [ofOffset_offset] using level)
  rw [← ofOffset_offset text p, same, ofOffset_offset]

/-- What is in front of a place, cut into lines: those that have ended, and what there is so far of the
line that has not. -/
structure CutInLines (before : List Char) (lines : List (List Char)) (left : List Char) : Prop where
  inline : '\n' ∉ left
  line : (start.walk before).line = lines.length + 1
  column : (start.walk before).column = left.length + 1
  ahead : ∀ rest, (before ++ rest).splitOn '\n' = lines ++ (left ++ rest).splitOn '\n'

theorem CutInLines.advance {before : List Char} {lines : List (List Char)} {left : List Char}
    (cut : CutInLines before lines left) (c : Char) :
    ∃ lines left, CutInLines (before ++ [c]) lines left := by
  have step : start.walk (before ++ [c]) = (start.walk before).advance c := by
    rw [walk_append, walk_cons, walk_nil]
  by_cases newline : c = '\n'
  · subst newline
    refine ⟨lines ++ [left], [], List.not_mem_nil, ?_, ?_, fun rest => ?_⟩
    · simp [step, Position.advance, cut.line]
    · simp [step, Position.advance]
    · rw [List.append_assoc, cut.ahead, List.singleton_append,
        List.splitOn_append_cons_self_of_not_mem cut.inline]
      simp
  · refine ⟨lines, left ++ [c], ?_, ?_, ?_, fun rest => ?_⟩
    · simp [cut.inline, Ne.symm newline]
    · simp [step, Position.advance, newline, cut.line]
    · simp [step, Position.advance, newline, cut.column]
    · rw [List.append_assoc, cut.ahead, List.append_assoc]

theorem exists_cutInLines (before : List Char) : ∃ lines left, CutInLines before lines left := by
  induction before using List.reverseRecOn with
  | nil => exact ⟨[], [], List.not_mem_nil, rfl, rfl, fun rest => rfl⟩
  | append_singleton before c ih =>
      obtain ⟨lines, left, cut⟩ := ih
      exact cut.advance c

end Position

theorem splitOn_inline {front : List Char} (inline : '\n' ∉ front) (after : List Char) :
    ∃ right later, (front ++ after).splitOn '\n' = (front ++ right) :: later := by
  by_cases broken : '\n' ∈ after
  · obtain ⟨right, behind, rfl, first⟩ := List.eq_append_cons_of_mem broken
    refine ⟨right, behind.splitOn '\n', ?_⟩
    rw [← List.append_assoc, List.splitOn_append_cons_self_of_not_mem (by simp [inline, first])]
  · exact ⟨after, [], List.splitOn_eq_singleton (by simp [inline, broken])⟩

/-- The line of the text that the place counts shows the word, behind the characters that its column
counts.  Line breaks cut the text into lines, and lines and columns count from one. -/
def Text.Shows (text : List Char) (place : Position) (word : List Char) : Prop :=
  ∃ index line left, place.line = index + 1 ∧ (text.splitOn '\n')[index]? = some line ∧
    place.column = left + 1 ∧ word <+: line.drop left

theorem shows_of_inline (before after : List Char) {word : List Char} (inline : '\n' ∉ word) :
    Shows (before ++ (word ++ after)) (Position.start.walk before) word := by
  obtain ⟨lines, left, cut⟩ := Position.exists_cutInLines before
  have oneLine : '\n' ∉ left ++ word := by simp [cut.inline, inline]
  obtain ⟨right, later, whole⟩ := splitOn_inline oneLine after
  refine ⟨lines.length, left ++ word ++ right, left.length, cut.line, ?_, cut.column, ?_⟩
  · rw [cut.ahead, ← List.append_assoc left, whole]
    simp
  · rw [List.append_assoc, List.drop_left]
    exact List.prefix_append word right

theorem lineAndColumn_start_lt {text : List Char} {earlier later : Token}
    (first : earlier ∈ tokenize text) (second : later ∈ tokenize text)
    (order : earlier.span.stop.offset ≤ later.span.start.offset) :
    earlier.start.lineAndColumn < later.start.lineAndColumn := by
  have inside := (span_of_mem_tokenize first).1
  have here : Position.ofOffset text earlier.span.start.offset = earlier.start :=
    (exact_of_mem_tokenize first).start.symm
  have there : Position.ofOffset text later.span.start.offset = later.start :=
    (exact_of_mem_tokenize second).start.symm
  have places := Position.offset_lt_iff_lineAndColumn_lt text earlier.span.start.offset
    later.span.start.offset
  rw [here, there] at places
  exact places.mp (Nat.lt_of_lt_of_le inside order)

theorem shows_of_mem_tokenize {text : List Char} {token : Token} (member : token ∈ tokenize text) :
    Shows text token.start token.text := by
  rw [tokenize_eq_tokens] at member
  obtain ⟨passed, kind, word, after, rfl, lexeme, _, rfl⟩ := Scanner.mem_tokens_between member
  exact shows_of_inline passed after lexeme.newline_not_mem

/-- The places of a text are in the order of their lines and columns just as in the order of their bytes,
so a line and a column name one place at most.  Tokens start at ever larger lines and columns, and each
stands in its line where its column says. -/
theorem lines_order_places (text : List Char) :
    (∀ p q, (Position.ofOffset text p).offset < (Position.ofOffset text q).offset ↔
      (Position.ofOffset text p).lineAndColumn < (Position.ofOffset text q).lineAndColumn) ∧
    (∀ p q, (Position.ofOffset text p).lineAndColumn = (Position.ofOffset text q).lineAndColumn ↔
      Position.ofOffset text p = Position.ofOffset text q) ∧
    (tokenize text).Pairwise
      (fun earlier later => earlier.start.lineAndColumn < later.start.lineAndColumn) ∧
    ∀ token ∈ tokenize text, Shows text token.start token.text := by
  refine ⟨Position.offset_lt_iff_lineAndColumn_lt text, Position.lineAndColumn_eq_iff text, ?_,
    fun token => shows_of_mem_tokenize⟩
  have ordered := Scanner.tokens_ordered [] text
  rw [← tokenize_eq_tokens] at ordered
  exact ordered.imp_of_mem lineAndColumn_start_lt

end TokenStream
