import TokenStream.Position

namespace TokenStream

namespace Text

theorem byteLength_pos {text : List Char} (nonempty : text ≠ []) : 0 < byteLength text := by
  cases text with
  | nil => contradiction
  | cons c text =>
      have width := c.utf8Size_pos
      simp only [byteLength_cons]
      omega

theorem append_of_byteLength_le {before after before' after' : List Char}
    (same : before ++ after = before' ++ after') (earlier : byteLength before ≤ byteLength before') :
    ∃ between, before' = before ++ between ∧ after = between ++ after' := by
  rcases List.append_eq_append_iff.mp same with ⟨between, longer, rest⟩ | ⟨between, shorter, rest⟩
  · exact ⟨between, longer, rest⟩
  · have nothing : between = [] := by
      by_cases empty : between = []
      · exact empty
      · have width := byteLength_pos empty
        rw [shorter, byteLength_append] at earlier
        omega
    subst nothing
    exact ⟨[], by simpa using shorter.symm, by simpa using rest.symm⟩

theorem append_inj_of_byteLength {before after before' after' : List Char}
    (same : before ++ after = before' ++ after') (level : byteLength before = byteLength before') :
    before = before' ∧ after = after' := by
  have parts := splitAtByte_boundary before after
  rw [same, level, splitAtByte_boundary, Prod.mk.injEq] at parts
  exact ⟨parts.1.symm, parts.2.symm⟩

theorem character_of_append {first second before after : List Char} {c : Char}
    (same : first ++ second = before ++ c :: after) :
    (byteLength before < byteLength first ∧ c ∈ first) ∨
      ∃ between, before = first ++ between ∧ second = between ++ c :: after := by
  by_cases inFirst : byteLength before < byteLength first
  · left
    obtain ⟨between, longer, rest⟩ := append_of_byteLength_le same.symm (Nat.le_of_lt inFirst)
    cases between with
    | nil => simp [longer] at inFirst
    | cons d between =>
        obtain ⟨rfl, _⟩ := List.cons.inj rest
        exact ⟨inFirst, by simp [longer]⟩
  · right
    exact append_of_byteLength_le same (Nat.le_of_not_lt inFirst)

/-- The text holds `word` between two byte offsets, which are character boundaries. -/
def Slice (text : List Char) (first last : Nat) (word : List Char) : Prop :=
  ∃ before after, text = before ++ (word ++ after) ∧ byteLength before = first ∧
    byteLength (before ++ word) = last

end Text

namespace Position

open TokenStream.Text

theorem atEndOf_append_singleton (before : List Char) (c : Char) :
    atEndOf (before ++ [c]) = (atEndOf before).advance c := by
  by_cases newline : c = '\n'
  · subst newline
    simp [atEndOf, advance, Nat.add_assoc]
  · simp [atEndOf, advance, newline, Nat.add_comm]

theorem walk_atEndOf (before text : List Char) :
    (atEndOf before).walk text = atEndOf (before ++ text) := by
  induction text generalizing before with
  | nil => simp
  | cons c text ih =>
      rw [walk_cons, ← atEndOf_append_singleton, ih]
      simp

/-- Counting along the way and counting afterwards agree. -/
theorem walk_start (text : List Char) : start.walk text = atEndOf text :=
  walk_atEndOf [] text

theorem ofOffset_boundary (before after : List Char) :
    ofOffset (before ++ after) (byteLength before) = start.walk before := by
  rw [ofOffset, splitAtByte_boundary, walk_start]

theorem ofOffset_byteLength (text : List Char) :
    ofOffset text (byteLength text) = start.walk text := by
  simpa using ofOffset_boundary text []

theorem walk_start_offset (text : List Char) : (start.walk text).offset = byteLength text := by
  simp [walk_offset, start]

theorem walk_of_no_newline (position : Position) {text : List Char} (inline : '\n' ∉ text) :
    position.walk text =
      { line := position.line, column := position.column + text.length,
        offset := position.offset + byteLength text } := by
  induction text generalizing position with
  | nil => simp
  | cons c text ih =>
      simp only [List.mem_cons, not_or] at inline
      have other : c ≠ '\n' := fun same => inline.1 same.symm
      rw [walk_cons, ih (position.advance c) inline.2]
      simp [advance, other, Nat.add_assoc, Nat.add_comm 1]

end Position

end TokenStream
