namespace TokenStream.Json

inductive Value where
  | number (value : Nat)
  | string (text : List Char)
  | array (items : List Value)
  | object (members : List (String × Value))
deriving Repr

/-- A code below sixteen times sixteen as two lower-case hexadecimal digits. -/
def hexPair (code : Nat) : List Char :=
  [Nat.digitChar (code / 16), Nat.digitChar (code % 16)]

/-- A character inside a string.  Quotation marks, backslashes and controls below the space are
escaped, and nothing else. -/
def escapeChar (c : Char) : List Char :=
  match c with
  | '"' => ['\\', '"']
  | '\\' => ['\\', '\\']
  | '\x08' => ['\\', 'b']
  | '\x0c' => ['\\', 'f']
  | '\n' => ['\\', 'n']
  | '\r' => ['\\', 'r']
  | '\t' => ['\\', 't']
  | _ => if c.toNat < 0x20 then ['\\', 'u', '0', '0'] ++ hexPair c.toNat else [c]

def writeString (text : List Char) : List Char :=
  '"' :: text.flatMap escapeChar ++ ['"']

def writeNumber (value : Nat) : List Char :=
  Nat.toDigits 10 value

/-- What stands between two items and around all of them. -/
structure Layout where
  /-- The text in front of an item, at the depth of the item. -/
  beforeItem : Nat → List Char
  /-- The text behind the last item, at the depth of the enclosing value. -/
  afterItems : Nat → List Char
  /-- The text between a member's name and its value. -/
  colon : List Char

/-- All on one line and without blanks. -/
def oneLine : Layout where
  beforeItem _ := []
  afterItems _ := []
  colon := [':']

/-- Each item on a line of its own, two blanks further in than the value around it. -/
def indented : Layout where
  beforeItem depth := '\n' :: List.replicate (2 * depth) ' '
  afterItems depth := '\n' :: List.replicate (2 * depth) ' '
  colon := [':', ' ']

/-- The items between their brackets.  A value without items is written as its two brackets. -/
def Layout.enclose (layout : Layout) (depth : Nat) (left right : Char)
    (items : List (List Char)) : List Char :=
  if items.isEmpty then [left, right]
  else
    left :: List.intercalate [','] (items.map (layout.beforeItem (depth + 1) ++ ·)) ++
      layout.afterItems depth ++ [right]

namespace Value

mutual

def write (layout : Layout) (depth : Nat) : Value → List Char
  | .number value => writeNumber value
  | .string text => writeString text
  | .array items =>
      layout.enclose depth '[' ']' (writeItems layout (depth + 1) items [])
  | .object members =>
      layout.enclose depth '{' '}' (writeMembers layout (depth + 1) members [])

/-- The items are collected with the last one first. -/
def writeItems (layout : Layout) (depth : Nat) : List Value → List (List Char) → List (List Char)
  | [], written => written.reverse
  | item :: items, written => writeItems layout depth items (item.write layout depth :: written)

/-- The members are collected with the last one first. -/
def writeMembers (layout : Layout) (depth : Nat) :
    List (String × Value) → List (List Char) → List (List Char)
  | [], written => written.reverse
  | (name, value) :: members, written =>
      writeMembers layout depth members
        ((writeString name.toList ++ layout.colon ++ value.write layout depth) :: written)

end

theorem writeItems_eq (layout : Layout) (depth : Nat) (items : List Value)
    (written : List (List Char)) :
    writeItems layout depth items written =
      written.reverse ++ items.map (write layout depth) := by
  induction items generalizing written with
  | nil => simp [writeItems]
  | cons item items ih => simp [writeItems, ih]

theorem writeMembers_eq (layout : Layout) (depth : Nat) (members : List (String × Value))
    (written : List (List Char)) :
    writeMembers layout depth members written =
      written.reverse ++ members.map fun (name, value) =>
        writeString name.toList ++ layout.colon ++ write layout depth value := by
  induction members generalizing written with
  | nil => simp [writeMembers]
  | cons member members ih => simp [writeMembers, ih]

end Value

end TokenStream.Json
