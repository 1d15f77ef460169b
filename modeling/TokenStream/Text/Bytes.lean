namespace TokenStream.Text

def byteLength : List Char → Nat
  | [] => 0
  | c :: text => c.utf8Size + byteLength text

@[simp]
theorem byteLength_nil : byteLength [] = 0 := rfl

@[simp]
theorem byteLength_cons (c : Char) (text : List Char) :
    byteLength (c :: text) = c.utf8Size + byteLength text := rfl

@[simp]
theorem byteLength_append (first second : List Char) :
    byteLength (first ++ second) = byteLength first + byteLength second := by
  induction first with
  | nil => simp
  | cons c first ih => simp [ih, Nat.add_assoc]

/-- The text before and the text after the first character boundary at or past the offset. -/
def splitAtByte (offset : Nat) (text : List Char) : List Char × List Char :=
  go [] offset text
where
  /-- The part before the cut is collected with its last character first. -/
  go (before : List Char) : Nat → List Char → List Char × List Char
    | 0, text => (before.reverse, text)
    | _ + 1, [] => (before.reverse, [])
    | offset + 1, c :: text => go (c :: before) (offset + 1 - c.utf8Size) text

theorem splitAtByte_go (passed text : List Char) (offset : Nat) :
    splitAtByte.go passed offset text =
      (passed.reverse ++ (splitAtByte offset text).1, (splitAtByte offset text).2) := by
  induction text generalizing passed offset with
  | nil => cases offset <;> simp [splitAtByte, splitAtByte.go]
  | cons c text ih =>
      cases offset with
      | zero => simp [splitAtByte, splitAtByte.go]
      | succ offset => simp [splitAtByte, splitAtByte.go, ih (c :: passed), ih [c]]

theorem splitAtByte_zero (text : List Char) : splitAtByte 0 text = ([], text) := by
  cases text <;> rfl

theorem splitAtByte_nil (offset : Nat) : splitAtByte offset [] = ([], []) := by
  cases offset <;> rfl

theorem splitAtByte_cons {offset : Nat} (inside : 0 < offset) (c : Char) (text : List Char) :
    splitAtByte offset (c :: text) =
      (c :: (splitAtByte (offset - c.utf8Size) text).1, (splitAtByte (offset - c.utf8Size) text).2) := by
  cases offset with
  | zero => contradiction
  | succ offset => rw [splitAtByte, splitAtByte.go, splitAtByte_go]; rfl

theorem splitAtByte_append (offset : Nat) (text : List Char) :
    (splitAtByte offset text).1 ++ (splitAtByte offset text).2 = text := by
  induction text generalizing offset with
  | nil => rw [splitAtByte_nil, List.nil_append]
  | cons c text ih =>
      rcases Nat.eq_zero_or_pos offset with rfl | inside
      · rw [splitAtByte_zero, List.nil_append]
      · rw [splitAtByte_cons inside, List.cons_append, ih]

theorem splitAtByte_boundary (before after : List Char) :
    splitAtByte (byteLength before) (before ++ after) = (before, after) := by
  induction before with
  | nil => exact splitAtByte_zero after
  | cons c before ih =>
      have inside : 0 < byteLength (c :: before) := Nat.add_pos_left c.utf8Size_pos _
      have left : byteLength (c :: before) - c.utf8Size = byteLength before :=
        Nat.add_sub_cancel_left _ _
      rw [List.cons_append, splitAtByte_cons inside, left, ih]

end TokenStream.Text
