import TokenStream.Text.Bytes

namespace TokenStream

open TokenStream.Text

/-- Lines and columns count from one, the offset counts bytes from zero.  A column is one
character wide and only a line feed starts a line. -/
structure Position where
  line : Nat
  column : Nat
  offset : Nat
deriving Repr, DecidableEq

namespace Position

def start : Position :=
  { line := 1, column := 1, offset := 0 }

instance : Inhabited Position := ⟨start⟩

def advance (position : Position) (c : Char) : Position :=
  if c = '\n' then
    { line := position.line + 1, column := 1, offset := position.offset + c.utf8Size }
  else
    { position with column := position.column + 1, offset := position.offset + c.utf8Size }

def walk (position : Position) (text : List Char) : Position :=
  text.foldl advance position

@[simp]
theorem walk_nil (position : Position) : position.walk [] = position := rfl

@[simp]
theorem walk_cons (position : Position) (c : Char) (text : List Char) :
    position.walk (c :: text) = (position.advance c).walk text := rfl

theorem walk_append (position : Position) (first second : List Char) :
    position.walk (first ++ second) = (position.walk first).walk second := by
  simp [walk, List.foldl_append]

@[simp]
theorem advance_offset (position : Position) (c : Char) :
    (position.advance c).offset = position.offset + c.utf8Size := by
  unfold advance
  split <;> rfl

theorem walk_offset (position : Position) (text : List Char) :
    (position.walk text).offset = position.offset + byteLength text := by
  induction text generalizing position with
  | nil => simp
  | cons c text ih => simp [ih, Nat.add_assoc]

/-- The place after a text that starts at the top, from its line breaks. -/
def atEndOf (before : List Char) : Position :=
  { line := 1 + before.count '\n',
    column := 1 + (before.reverse.takeWhile (· != '\n')).length,
    offset := byteLength before }

/-- The place of a byte offset in a text, moved back to the end of the text or forward to the
next character boundary where needed. -/
def ofOffset (text : List Char) (offset : Nat) : Position :=
  atEndOf (splitAtByte offset text).1

end Position

/-- The stretch of a text between two places. -/
structure Span where
  start : Position
  stop : Position
deriving Repr, DecidableEq

namespace Span

def point (position : Position) : Span :=
  { start := position, stop := position }

def length (span : Span) : Nat :=
  span.stop.offset - span.start.offset

def isEmpty (span : Span) : Bool :=
  span.length == 0

@[simp]
theorem isEmpty_point (position : Position) : (Span.point position).isEmpty = true := by
  simp [isEmpty, length, Span.point]

end Span

end TokenStream
