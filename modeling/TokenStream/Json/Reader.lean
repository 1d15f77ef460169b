import TokenStream.Json.Failure

namespace TokenStream.Json

abbrev Reader (α : Type) := StateT (List Char) (Except Failure) α

namespace Reader

/-- Fails at the place reached. -/
def fail (cause : Cause) : Reader α := fun text =>
  .error { cause, rest := text, seen := 0 }

/-- Fails behind the next byte, or at the end of the text. -/
def failAtNext (cause : Cause) : Reader α := fun text =>
  .error { cause, rest := text, seen := 1 }

/-- Fails in front of characters that have been taken already. -/
def failBefore (cause : Cause) (taken : List Char) : Reader α := fun text =>
  .error { cause, rest := taken ++ text, seen := 0 }

/-- The reader that takes what a function on the text leaves out. -/
def ofSkip (skip : List Char → Except Failure (List Char)) : Reader Unit := fun text =>
  match skip text with
  | .ok left => .ok ((), left)
  | .error failure => .error failure

/-- The next character, which is left in place. -/
def peek : Reader (Option Char) := fun text =>
  .ok (text.head?, text)

/-- Takes one character. -/
def drop : Reader Unit := fun text =>
  .ok ((), text.tail)

def isBlank (c : Char) : Bool :=
  c == ' ' || c == '\n' || c == '\t' || c == '\r'

/-- Takes all blanks. -/
def skipBlanks : Reader Unit := fun text =>
  .ok ((), text.dropWhile isBlank)

/-- The next character that is no blank, which is left in place. -/
def peekToken : Reader (Option Char) := do
  skipBlanks
  peek

/-- Takes the given characters, the rest of a word whose first letter has been taken. -/
def word : List Char → Reader Unit
  | [] => pure ()
  | wanted :: letters => do
      match ← peek with
      | none => fail .valueMissing
      | some c =>
          if c = wanted then
            drop
            word letters
          else
            failAtNext .noWord

/-- Takes the colon behind a member's name. -/
def colon : Reader Unit := do
  match ← peekToken with
  | none => failAtNext .objectOpen
  | some ':' => drop
  | some _ => failAtNext .noColon

/-- A reader after which at most as much text is left as before. -/
def Shrinks (reader : Reader α) : Prop :=
  ∀ text value left, reader text = .ok (value, left) → left.length ≤ text.length

theorem Shrinks.pure (value : α) : Shrinks (Pure.pure value : Reader α) := by
  intro text result left read
  cases read
  exact Nat.le_refl _

theorem Shrinks.bind {first : Reader α} {second : α → Reader β}
    (firstShrinks : first.Shrinks) (secondShrinks : ∀ value, (second value).Shrinks) :
    Shrinks (first >>= second) := by
  intro text result left read
  change (first text >>= fun (value, middle) => second value middle) = _ at read
  cases done : first text with
  | error failure => simp [done, Bind.bind, Except.bind] at read
  | ok pair =>
      simp only [done, Bind.bind, Except.bind] at read
      exact Nat.le_trans (secondShrinks _ _ _ _ read) (firstShrinks _ _ _ done)

theorem Shrinks.fail (cause : Cause) : Shrinks (fail cause : Reader α) := by
  intro text result left read
  cases read

theorem Shrinks.failAtNext (cause : Cause) : Shrinks (failAtNext cause : Reader α) := by
  intro text result left read
  cases read

theorem Shrinks.ofSkip {skip : List Char → Except Failure (List Char)}
    (shorter : ∀ text left, skip text = .ok left → left.length ≤ text.length) :
    Shrinks (ofSkip skip) := by
  intro text result left read
  unfold Reader.ofSkip at read
  split at read
  · rename_i rest found
    cases read
    exact shorter _ _ found
  · cases read

theorem Shrinks.peek : Shrinks peek := by
  intro text result left read
  cases read
  exact Nat.le_refl _

theorem Shrinks.drop : Shrinks drop := by
  intro text result left read
  cases read
  simp

theorem Shrinks.skipBlanks : Shrinks skipBlanks := by
  intro text result left read
  cases read
  exact (List.dropWhile_suffix isBlank).length_le

theorem Shrinks.peekToken : Shrinks peekToken :=
  Shrinks.skipBlanks.bind fun _ => Shrinks.peek

theorem Shrinks.word (letters : List Char) : Shrinks (word letters) := by
  induction letters with
  | nil => exact Shrinks.pure ()
  | cons wanted letters ih =>
      refine Shrinks.peek.bind fun next => ?_
      cases next with
      | none => exact Shrinks.fail _
      | some c =>
          dsimp only
          split
          · exact Shrinks.drop.bind fun _ => ih
          · exact Shrinks.failAtNext _

theorem Shrinks.colon : Shrinks colon := by
  refine Shrinks.peekToken.bind fun next => ?_
  split
  · exact Shrinks.failAtNext _
  · exact Shrinks.drop
  · exact Shrinks.failAtNext _

end Reader

end TokenStream.Json
