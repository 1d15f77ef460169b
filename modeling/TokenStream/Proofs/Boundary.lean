import Mathlib.Order.Bounds.Basic
import Mathlib.Order.Nat
import TokenStream.Proofs.Position

namespace TokenStream

namespace Text

/-- A byte offset at one of the ends of the text or between two of its characters. -/
def Boundary (text : List Char) (offset : Nat) : Prop :=
  ∃ before after, text = before ++ after ∧ byteLength before = offset

theorem boundary_cons_iff {text : List Char} {c : Char} {offset : Nat} :
    Boundary (c :: text) offset ↔
      offset = 0 ∨ ∃ later, Boundary text later ∧ offset = c.utf8Size + later := by
  constructor
  · intro boundary
    obtain ⟨before, after, split, rfl⟩ := boundary
    cases before with
    | nil => exact .inl rfl
    | cons d before =>
        obtain ⟨rfl, rest⟩ := List.cons.inj split
        exact .inr ⟨byteLength before, ⟨before, after, rest, rfl⟩, byteLength_cons c before⟩
  · intro place
    obtain rfl | ⟨later, ⟨before, after, rfl, rfl⟩, rfl⟩ := place
    · exact ⟨[], c :: text, rfl, rfl⟩
    · exact ⟨c :: before, after, rfl, byteLength_cons c before⟩

/-- The cut is at the first boundary that is not in front of the offset, or at the end. -/
theorem isLeast_splitAtByte (offset : Nat) (text : List Char) :
    IsLeast {bound | Boundary text bound ∧ min offset (byteLength text) ≤ bound}
      (byteLength (splitAtByte offset text).1) := by
  induction text generalizing offset with
  | nil =>
      rw [splitAtByte_nil]
      exact ⟨⟨⟨[], [], rfl, rfl⟩, Nat.min_le_right _ _⟩, fun bound _ => Nat.zero_le bound⟩
  | cons c text ih =>
      rcases Nat.eq_zero_or_pos offset with rfl | inside
      · rw [splitAtByte_zero]
        exact ⟨⟨⟨[], c :: text, rfl, rfl⟩, Nat.min_le_left _ _⟩, fun bound _ => Nat.zero_le bound⟩
      · obtain ⟨⟨reached, behind⟩, least⟩ := ih (offset - c.utf8Size)
        simp only [splitAtByte_cons inside, byteLength_cons]
        refine ⟨⟨boundary_cons_iff.mpr (.inr ⟨_, reached, rfl⟩), by omega⟩, ?_⟩
        intro bound candidate
        obtain ⟨boundary, later⟩ := candidate
        have width := c.utf8Size_pos
        rcases boundary_cons_iff.mp boundary with rfl | ⟨rest, within, rfl⟩
        · omega
        · exact Nat.add_le_add_left (least ⟨within, by omega⟩) c.utf8Size

/-- Whether the offset is at one of the ends of the text or between two of its characters. -/
def isBoundary (text : List Char) (offset : Nat) : Bool :=
  byteLength (splitAtByte offset text).1 == offset

/-- The text between two byte offsets, which have to be in order and to be boundaries. -/
def slice? (text : List Char) (first last : Nat) : Option (List Char) :=
  if first ≤ last && isBoundary text first && isBoundary text last then
    some (splitAtByte (last - first) (splitAtByte first text).2).1
  else none

theorem isBoundary_iff {text : List Char} {offset : Nat} :
    isBoundary text offset = true ↔ Boundary text offset := by
  rw [isBoundary, beq_iff_eq]
  constructor
  · intro same
    exact ⟨_, _, (splitAtByte_append offset text).symm, same⟩
  · intro boundary
    obtain ⟨before, after, split, same⟩ := boundary
    rw [split, ← same, splitAtByte_boundary]

theorem slice?_append (before word after : List Char) :
    slice? (before ++ (word ++ after)) (byteLength before) (byteLength (before ++ word)) =
      some word := by
  have ordered : byteLength before ≤ byteLength (before ++ word) := by
    rw [byteLength_append]
    exact Nat.le_add_right _ _
  have first : isBoundary (before ++ (word ++ after)) (byteLength before) = true :=
    isBoundary_iff.mpr ⟨before, word ++ after, rfl, rfl⟩
  have last : isBoundary (before ++ (word ++ after)) (byteLength (before ++ word)) = true :=
    isBoundary_iff.mpr ⟨before ++ word, after, (List.append_assoc before word after).symm, rfl⟩
  have width : byteLength (before ++ word) - byteLength before = byteLength word := by
    rw [byteLength_append]
    omega
  simp only [slice?, ordered, first, last, decide_true, Bool.and_self, if_true,
    splitAtByte_boundary, width]

/-- A slice is there just if its ends are boundaries in order, and it is the text between them. -/
theorem slice?_eq_some_iff {text word : List Char} {first last : Nat} :
    slice? text first last = some word ↔ Slice text first last word := by
  constructor
  · intro sliced
    have inside : first ≤ last ∧ Boundary text first ∧ Boundary text last := by
      by_contra outside
      rw [slice?, if_neg] at sliced
      · cases sliced
      · simpa [isBoundary_iff, and_assoc] using outside
    obtain ⟨ordered, ⟨before, rest, split, start⟩, ⟨upTo, after, split', stop⟩⟩ := inside
    subst split start stop
    obtain ⟨between, longer, rest⟩ := append_of_byteLength_le split' ordered
    subst longer rest
    rw [slice?_append] at sliced
    cases sliced
    exact ⟨before, after, rfl, rfl, rfl⟩
  · intro slice
    obtain ⟨before, after, split, start, stop⟩ := slice
    rw [split, ← start, ← stop]
    exact slice?_append before word after

theorem slice?_rest (before rest : List Char) :
    slice? (before ++ rest) (byteLength before) (byteLength (before ++ rest)) = some rest := by
  have sliced := slice?_append before rest []
  rwa [List.append_nil] at sliced

/-- The first boundary from the offset on, looked for one byte at a time.  Behind the text there is
none to be found. -/
def align? (text : List Char) (offset : Nat) : Option Nat :=
  if isBoundary text offset then some offset
  else if offset < byteLength text then align? text (offset + 1)
  else none
termination_by byteLength text - offset

theorem align?_eq_some {text : List Char} {offset bound : Nat} (inside : offset ≤ byteLength text)
    (least : IsLeast {bound | Boundary text bound ∧ offset ≤ bound} bound) :
    align? text offset = some bound := by
  obtain ⟨⟨boundary, behind⟩, first⟩ := least
  fun_induction align? text offset with
  | case1 offset here =>
      have same : bound = offset :=
        Nat.le_antisymm (first ⟨isBoundary_iff.mp here, Nat.le_refl offset⟩) behind
      rw [same]
  | case2 offset within goesOn ih =>
      -- The offset itself is no boundary, so the first one is behind it.
      have other : bound ≠ offset := by
        intro same
        subst same
        exact within (isBoundary_iff.mpr boundary)
      refine ih goesOn ?_ (by omega)
      intro later candidate
      exact first ⟨candidate.1, Nat.le_of_succ_le candidate.2⟩
  | case3 offset within ended =>
      have same : offset = byteLength text := Nat.le_antisymm inside (Nat.le_of_not_lt ended)
      subst same
      exact absurd (isBoundary_iff.mpr ⟨text, [], (List.append_nil text).symm, rfl⟩) within

/-- The byte offset of the last occurrence of a character. -/
def lastIndex? (c : Char) : List Char → Option Nat
  | [] => none
  | d :: text =>
      match lastIndex? c text with
      | some index => some (d.utf8Size + index)
      | none => if d = c then some 0 else none

theorem lastIndex?_cases (c : Char) (text : List Char) :
    (lastIndex? c text = none ∧ c ∉ text) ∨
      ∃ before after, text = before ++ c :: after ∧ c ∉ after ∧
        lastIndex? c text = some (byteLength before) := by
  induction text with
  | nil => exact .inl ⟨rfl, List.not_mem_nil⟩
  | cons d text ih =>
      obtain ⟨nothing, absent⟩ | ⟨before, after, split, absent, found⟩ := ih
      · by_cases here : d = c
        · refine .inr ⟨[], text, by rw [here]; rfl, absent, ?_⟩
          simp [lastIndex?, nothing, here]
        · refine .inl ⟨by simp [lastIndex?, nothing, here], ?_⟩
          exact List.not_mem_cons_of_ne_of_not_mem (Ne.symm here) absent
      · exact .inr ⟨d :: before, after, by rw [split]; rfl, absent, by simp [lastIndex?, found]⟩

end Text

namespace Position

open TokenStream.Text

theorem ofOffset_eq_walk (text : List Char) (offset : Nat) :
    ofOffset text offset = start.walk (splitAtByte offset text).1 :=
  (walk_start _).symm

theorem boundary_ofOffset (text : List Char) (offset : Nat) :
    Boundary text (ofOffset text offset).offset :=
  (isLeast_splitAtByte offset text).1.1

theorem ofOffset_offset (text : List Char) (offset : Nat) :
    ofOffset text (ofOffset text offset).offset = ofOffset text offset := by
  have again := ofOffset_boundary (splitAtByte offset text).1 (splitAtByte offset text).2
  rwa [splitAtByte_append, walk_start] at again

theorem ofOffset_offset_mono (text : List Char) :
    Monotone fun offset => (ofOffset text offset).offset := by
  intro earlier later order
  obtain ⟨boundary, behind⟩ := (isLeast_splitAtByte later text).1
  have ordered : min earlier (byteLength text) ≤ min later (byteLength text) := by omega
  exact (isLeast_splitAtByte earlier text).2 ⟨boundary, ordered.trans behind⟩

/-- The place of an offset is at the first boundary that is not in front of it, or at the end of a text
that is shorter, and a walk over the text in front of that boundary ends there.  So it is the place of
its own offset too, and a larger offset has no earlier place. -/
theorem ofOffset_is_first_boundary (text : List Char) :
    (∀ offset,
      IsLeast {bound | Boundary text bound ∧ min offset (byteLength text) ≤ bound}
          (ofOffset text offset).offset ∧
        (∃ before after, text = before ++ after ∧
          byteLength before = (ofOffset text offset).offset ∧
          ofOffset text offset = start.walk before) ∧
        ofOffset text (ofOffset text offset).offset = ofOffset text offset) ∧
      Monotone fun offset => (ofOffset text offset).offset := by
  refine ⟨fun offset => ⟨isLeast_splitAtByte offset text, ?_, ofOffset_offset text offset⟩,
    ofOffset_offset_mono text⟩
  exact ⟨_, _, (splitAtByte_append offset text).symm, rfl, ofOffset_eq_walk text offset⟩

/-- The place of a byte offset as it is found step by step: cut off at the end of the text, moved on to a
boundary, with the line breaks counted and the last line sliced off in front of it. -/
def ofOffset? (text : List Char) (offset : Nat) : Option Position := do
  let aligned ← align? text (min offset (byteLength text))
  let before ← slice? text 0 aligned
  let lineStart := (lastIndex? '\n' before).elim 0 (· + 1)
  let line ← slice? before lineStart (byteLength before)
  return { line := 1 + before.count '\n', column := 1 + line.length, offset := aligned }

theorem column_walk_start {text : List Char} (inline : '\n' ∉ text) :
    (start.walk text).column = 1 + text.length := by
  rw [walk_of_no_newline start inline]
  rfl

theorem column_walk_behind_break (before : List Char) {text : List Char} (inline : '\n' ∉ text) :
    (start.walk (before ++ '\n' :: text)).column = 1 + text.length := by
  rw [walk_append, walk_cons, walk_of_no_newline _ inline]
  rfl

/-- The slice from the last line break on is as long as the column says. -/
theorem slice?_lineStart (before : List Char) :
    ∃ line, slice? before ((lastIndex? '\n' before).elim 0 (· + 1)) (byteLength before) = some line ∧
      (start.walk before).column = 1 + line.length := by
  obtain ⟨nothing, inline⟩ | ⟨passed, line, split, inline, found⟩ := lastIndex?_cases '\n' before
  · rw [nothing]
    exact ⟨before, slice?_rest [] before, column_walk_start inline⟩
  · have whole : before = (passed ++ ['\n']) ++ line := by simp [split]
    have width : byteLength (passed ++ ['\n']) = byteLength passed + 1 := byteLength_append _ _
    have sliced := slice?_rest (passed ++ ['\n']) line
    rw [← whole, width] at sliced
    rw [found]
    refine ⟨line, sliced, ?_⟩
    rw [split]
    exact column_walk_behind_break passed inline

/-- No step on the way to the place of an offset fails, and they lead to that place. -/
theorem ofOffset?_eq_some (text : List Char) (offset : Nat) :
    ofOffset? text offset = some (ofOffset text offset) := by
  have aligned := align?_eq_some (Nat.min_le_right offset (byteLength text))
    (isLeast_splitAtByte offset text)
  have whole := splitAtByte_append offset text
  rw [ofOffset]
  generalize (splitAtByte offset text).1 = before at *
  have cut : slice? text 0 (byteLength before) = some before := by
    rw [← whole]
    exact slice?_append [] before _
  obtain ⟨line, sliced, column⟩ := slice?_lineStart before
  rw [walk_start] at column
  simp only [ofOffset?, aligned, cut, sliced, ← column, Option.bind_eq_bind, Option.bind_some]
  rfl

end Position

end TokenStream
