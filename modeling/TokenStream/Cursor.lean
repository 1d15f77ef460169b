import TokenStream.Scanner
import TokenStream.Journal.Event

namespace TokenStream

open TokenStream.Journal

/-! A cursor over the tokens of a text, with one token of lookahead.

The cursor holds the current token and the one behind it; its scanner stands
behind both.  Every operation answers with a value, the cursor that follows and
the events to report.
-/

structure Cursor where
  scanner : Scanner
  current : Token
  lookahead : Token
deriving Repr, DecidableEq

structure Outcome (α : Type) where
  value : α
  cursor : Cursor
  events : List Event
deriving Repr

def Token.scanned (token : Token) : Event :=
  if token.isEnd then
    { level := .trace, target := scannerTarget, message := "End of input",
      fields := [("offset", .number token.start.offset)] }
  else
    { level := .trace, target := scannerTarget, message := "Produced token",
      fields := [("kind", .words token.kind.name), ("text", .text token.text),
        ("line", .number token.start.line), ("column", .number token.start.column)] }

namespace Cursor

def ofText (text : List Char) : Cursor :=
  let (current, scanner) := (Scanner.ofText text).next
  let (lookahead, scanner) := scanner.next
  { scanner, current, lookahead }

/-- The events of `ofText`: the size of the text, then the two tokens read. -/
def openingEvents (text : List Char) : List Event :=
  let cursor := ofText text
  [{ level := .trace, target := lexerTarget, message := "Creating token cursor",
     fields := [("len", .number (Text.byteLength text))] },
   cursor.current.scanned, cursor.lookahead.scanned]

def hasNext (cursor : Cursor) : Bool :=
  !cursor.current.isEnd

def peek (cursor : Cursor) : Token :=
  cursor.current

def peekNext (cursor : Cursor) : Token :=
  cursor.lookahead

/-- The place of the scanner, which is behind the lookahead token. -/
def position (cursor : Cursor) : Position :=
  cursor.scanner.position

def offset (cursor : Cursor) : Nat :=
  cursor.scanner.offset

/-- The cursor on the token behind the current one.  At the end of the input it stays there. -/
def advance (cursor : Cursor) : Cursor :=
  { scanner := cursor.scanner.next.2
    current := cursor.lookahead
    lookahead := cursor.scanner.next.1 }

/-- The events of `consume`: the token read, then the end of the stream when the token that is
handed out was the last one, then the token handed out. -/
def consumeEvents (cursor : Cursor) : List Event :=
  let after := cursor.advance
  let exhausted : List Event :=
    if cursor.hasNext && !after.hasNext then
      [{ level := .debug, target := lexerTarget, message := "Token stream exhausted",
         fields := [("offset", .number after.offset)] }]
    else []
  after.lookahead.scanned :: exhausted ++
    [{ level := .trace, target := lexerTarget, message := "Consumed token",
       fields := [("text", .text cursor.current.text)] }]

def consume (cursor : Cursor) : Outcome Token :=
  { value := cursor.current, cursor := cursor.advance, events := cursor.consumeEvents }

/-- Hands out the current token and moves on, unless the input has ended. -/
def next (cursor : Cursor) : Outcome (Option Token) :=
  if cursor.hasNext then
    { value := some cursor.current, cursor := cursor.advance, events := cursor.consumeEvents }
  else
    { value := none, cursor, events := [] }

/-- How many tokens can still come at most: the characters left, and the tokens held. -/
def pending (cursor : Cursor) : Nat :=
  cursor.scanner.rest.length + (!cursor.lookahead.isEnd).toNat + (!cursor.current.isEnd).toNat

theorem pending_advance_lt (cursor : Cursor) (more : cursor.hasNext = true) :
    cursor.advance.pending < cursor.pending := by
  change (!cursor.current.isEnd) = true at more
  cases found : cursor.scanner.next.1.isEnd with
  | true =>
      have shorter := cursor.scanner.next_rest_le
      simp only [pending, advance, found, more, Bool.not_true, Bool.toNat_false, Bool.toNat_true]
      omega
  | false =>
      have shorter := cursor.scanner.next_rest_lt found
      simp only [pending, advance, found, more, Bool.not_false, Bool.toNat_true]
      omega

/-- Hands out tokens up to the end of the input or the first one that satisfies the predicate. -/
def takeUntil (cursor : Cursor) (stop : Token → Bool) : Outcome (List Token) :=
  go cursor [] []
where
  /-- Tokens and events are collected with the last one first. -/
  go (cursor : Cursor) (taken : List Token) (events : List Event) : Outcome (List Token) :=
    if _more : cursor.hasNext = true then
      if stop cursor.current then
        { value := taken.reverse, cursor, events := events.reverse }
      else
        go cursor.advance (cursor.current :: taken) (cursor.consumeEvents.reverse ++ events)
    else
      { value := taken.reverse, cursor, events := events.reverse }
  termination_by cursor.pending
  decreasing_by exact pending_advance_lt cursor _more

def collect (cursor : Cursor) : Outcome (List Token) :=
  cursor.takeUntil fun _ => false

def count (cursor : Cursor) : Outcome Nat :=
  let rest := cursor.collect
  { rest with value := rest.value.length }

def last (cursor : Cursor) : Outcome (Option Token) :=
  let rest := cursor.collect
  { rest with value := rest.value.getLast? }

def take (cursor : Cursor) (count : Nat) : Outcome (List Token) :=
  go cursor [] [] count
where
  go (cursor : Cursor) (taken : List Token) (events : List Event) : Nat → Outcome (List Token)
    | 0 => { value := taken.reverse, cursor, events := events.reverse }
    | count + 1 =>
        if cursor.hasNext then
          go cursor.advance (cursor.current :: taken) (cursor.consumeEvents.reverse ++ events) count
        else
          { value := taken.reverse, cursor, events := events.reverse }

/-- Drops `count` tokens and hands out the next one, if the input is that long. -/
def nth (cursor : Cursor) (count : Nat) : Outcome (Option Token) :=
  let skipped := cursor.take count
  let found := skipped.cursor.next
  { found with events := skipped.events ++ found.events }

end Cursor

def tokenize (text : List Char) : List Token :=
  (Cursor.ofText text).collect.value

end TokenStream
