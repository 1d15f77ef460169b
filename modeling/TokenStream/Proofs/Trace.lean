import TokenStream.Proofs.Stream

namespace TokenStream

open TokenStream.Text TokenStream.Journal

def createdEvent (text : List Char) : Event :=
  { level := .trace, target := lexerTarget, message := "Creating token cursor",
    fields := [("len", .number (byteLength text))] }

def producedEvent (token : Token) : Event :=
  { level := .trace, target := scannerTarget, message := "Produced token",
    fields := [("kind", .words token.kind.name), ("text", .text token.text),
      ("line", .number token.start.line), ("column", .number token.start.column)] }

def endEvent (text : List Char) : Event :=
  { level := .trace, target := scannerTarget, message := "End of input",
    fields := [("offset", .number (byteLength text))] }

def exhaustedEvent (text : List Char) : Event :=
  { level := .debug, target := lexerTarget, message := "Token stream exhausted",
    fields := [("offset", .number (byteLength text))] }

def consumedEvent (handedOut : List Char) : Event :=
  { level := .trace, target := lexerTarget, message := "Consumed token",
    fields := [("text", .text handedOut)] }

/-- The event of the scan with the number, counted from zero. -/
def scanEvent (text : List Char) (number : Nat) : Event :=
  (tokenize text)[number]?.elim (endEvent text) producedEvent

/-- What is reported of the token with the number when it is handed out. -/
def handOutEvents (text : List Char) (number : Nat) : List Event :=
  (if number + 1 = (tokenize text).length then [exhaustedEvent text] else []) ++
    [consumedEvent ((tokenize text)[number]?.elim [] Token.text)]

/-- The events of the call with the number, counted from zero. -/
def callEvents (text : List Char) (number : Nat) : List Event :=
  scanEvent text (number + 2) :: handOutEvents text number

/-- The events of a cursor from its making on to the given number of calls. -/
def traceAfter (text : List Char) (count : Nat) : List Event :=
  createdEvent text :: scanEvent text 0 :: scanEvent text 1 ::
    (List.range count).flatMap (callEvents text)

namespace Operation

/-- How many tokens the operation asks for when so many are left.  Only `consume` asks at the
end. -/
def calls (left : Nat) : Operation → Nat
  | .hasNext | .peek | .peekNext => 0
  | .consume => 1
  | .next => min 1 left
  | .nth skipped => min (skipped + 1) left
  | .take limit => min limit left
  | .count | .last | .collect => left

/-- How many calls there have been after the operations, when there were some before. -/
def callsAfter (text : List Char) (before : Nat) : List Operation → Nat
  | [] => before
  | operation :: later =>
      callsAfter text (before + operation.calls ((tokenize text).length - before)) later

theorem callsAfter_replicate_consume (text : List Char) (before count : Nat) :
    callsAfter text before (List.replicate count .consume) = before + count := by
  induction count generalizing before with
  | zero => rfl
  | succ count ih =>
      rw [List.replicate_succ, callsAfter, ih, calls]
      omega

theorem le_callsAfter (text : List Char) (before : Nat) (operations : List Operation) :
    before ≤ callsAfter text before operations := by
  induction operations generalizing before with
  | nil => exact Nat.le_refl _
  | cons operation later ih =>
      exact Nat.le_trans (Nat.le_add_right _ _) (ih _)

end Operation

namespace Cursor

def performEvents (cursor : Cursor) : Operation → List Event
  | .hasNext | .peek | .peekNext => []
  | .consume => cursor.consume.events
  | .next => cursor.next.events
  | .nth skipped => (cursor.nth skipped).events
  | .take limit => (cursor.take limit).events
  | .count => cursor.count.events
  | .last => cursor.last.events
  | .collect => cursor.collect.events

/-- What the operations report, one after another. -/
def eventsOf (cursor : Cursor) : List Operation → List Event
  | [] => []
  | operation :: later =>
      cursor.performEvents operation ++ (cursor.perform operation).2.eventsOf later

variable {text : List Char} {index : Nat}

theorem streamAt_of_length_le (ended : (tokenize text).length ≤ index) :
    streamAt text index = Token.atEndOf text := by
  rw [streamAt, List.getElem?_eq_none ended, Option.getD_none, atEndOf_eq_endAt]

theorem scanned_streamAt (text : List Char) (index : Nat) :
    (streamAt text index).scanned = scanEvent text index := by
  by_cases more : index < (tokenize text).length
  · have token := isEnd_of_mem_tokenize (List.getElem_mem more)
    simp [streamAt, scanEvent, more, Token.scanned, token, producedEvent]
  · have ended := Nat.le_of_not_lt more
    have offset : (Token.atEndOf text).start.offset = byteLength text :=
      Position.walk_start_offset text
    rw [streamAt_of_length_le ended, scanEvent, List.getElem?_eq_none ended]
    simp only [Token.scanned, Token.atEndOf, Token.isEnd_endAt, if_true] at offset ⊢
    rw [offset]
    rfl

theorem text_streamAt (text : List Char) (index : Nat) :
    (streamAt text index).text = (tokenize text)[index]?.elim [] Token.text := by
  rw [streamAt]
  cases (tokenize text)[index]? <;> rfl

theorem offset_onToken_of_length_le (ended : (tokenize text).length ≤ index + 1) :
    (onToken text index).offset = byteLength text := by
  have ahead : (onToken text index).lookahead = Token.atEndOf text :=
    (peekNext_onToken text index).trans (streamAt_of_length_le ended)
  have place := position_onToken text index
  rw [ahead] at place
  exact (congrArg Position.offset place).trans (Position.walk_start_offset text)

theorem consumeEvents_onToken (text : List Char) (index : Nat) :
    (onToken text index).consumeEvents = callEvents text index := by
  have ahead : (onToken text (index + 1)).lookahead.scanned = scanEvent text (index + 2) := by
    rw [← scanned_streamAt]
    exact congrArg Token.scanned (peekNext_onToken text (index + 1))
  have handedOut : (onToken text index).current.text =
      (tokenize text)[index]?.elim [] Token.text := by
    rw [← text_streamAt]
    exact congrArg Token.text (peek_onToken text index)
  have last : ((onToken text index).hasNext && !(onToken text index).advance.hasNext) = true ↔
      index + 1 = (tokenize text).length := by
    simp only [advance_onToken, hasNext_onToken, ← tokenize_eq_tokens, Bool.and_eq_true,
      decide_eq_true_eq, Bool.not_eq_true', decide_eq_false_iff_not]
    omega
  have advanced := advance_onToken text index
  simp only [consumeEvents, callEvents, handOutEvents, last, handedOut]
  rw [advanced, ahead]
  by_cases ends : index + 1 = (tokenize text).length
  · rw [if_pos ends, if_pos ends, offset_onToken_of_length_le (by omega)]
    rfl
  · rw [if_neg ends, if_neg ends]
    rfl

/-- Calls at the end all report the same. -/
theorem callEvents_min (text : List Char) (number : Nat) :
    callEvents text (min number (tokenize text).length) = callEvents text number := by
  by_cases within : number ≤ (tokenize text).length
  · rw [Nat.min_eq_left within]
  · have passed : (tokenize text).length < number := Nat.lt_of_not_le within
    have same : onToken text number = onToken text (min number (tokenize text).length) := by
      rw [Nat.min_eq_right (Nat.le_of_lt passed), tokenize_eq_tokens]
      rw [tokenize_eq_tokens] at passed
      exact onToken_of_length_lt passed
    rw [← consumeEvents_onToken, ← consumeEvents_onToken, same]

theorem take_go_events (count index : Nat) (taken : List Token) (events : List Event) :
    (take.go (onToken text index) taken events count).events =
      events.reverse ++ (List.range' index (min count ((tokenize text).length - index))).flatMap
        (callEvents text) := by
  induction count generalizing index taken events with
  | zero => simp [take.go]
  | succ count ih =>
      by_cases more : index < (tokenize text).length
      · have left : min (count + 1) ((tokenize text).length - index) =
            min count ((tokenize text).length - (index + 1)) + 1 := by omega
        rw [take.go]
        simp only [hasNext_onToken, ← tokenize_eq_tokens, more, decide_true, ↓reduceIte,
          advance_onToken, consumeEvents_onToken]
        rw [ih, left, List.range'_succ, List.flatMap_cons]
        simp
      · have left : (tokenize text).length - index = 0 := by omega
        rw [take.go]
        simp [hasNext_onToken, ← tokenize_eq_tokens, more, left]

theorem collect_go_events {left : Nat} (index : Nat) (taken : List Token) (events : List Event)
    (total : (tokenize text).length - index = left) :
    (takeUntil.go (fun _ => false) (onToken text index) taken events).events =
      events.reverse ++ (List.range' index left).flatMap (callEvents text) := by
  induction left generalizing index taken events with
  | zero =>
      have ended : ¬ index < (tokenize text).length := by omega
      rw [takeUntil.go]
      simp [hasNext_onToken, ← tokenize_eq_tokens, ended]
  | succ left ih =>
      have more : index < (tokenize text).length := by omega
      rw [takeUntil.go]
      simp only [hasNext_onToken, ← tokenize_eq_tokens, more, decide_true, ↓reduceDIte,
        Bool.false_eq_true, ↓reduceIte, advance_onToken, consumeEvents_onToken]
      rw [ih (index + 1) _ _ (by omega), List.range'_succ, List.flatMap_cons]
      simp

theorem next_events (text : List Char) (index : Nat) :
    (onToken text index).next.events =
      (List.range' index (min 1 ((tokenize text).length - index))).flatMap (callEvents text) := by
  by_cases more : index < (tokenize text).length
  · have left : min 1 ((tokenize text).length - index) = 1 := by omega
    simp [next, hasNext_onToken, ← tokenize_eq_tokens, more, left, consumeEvents_onToken]
  · have left : (tokenize text).length - index = 0 := by omega
    simp [next, hasNext_onToken, ← tokenize_eq_tokens, more, left]

/-- An operation reports what its calls report. -/
theorem performEvents_onToken (within : index ≤ (tokenize text).length) (operation : Operation) :
    (onToken text index).performEvents operation =
      (List.range' index (operation.calls ((tokenize text).length - index))).flatMap
        (callEvents text) := by
  have collected : (onToken text index).collect.events =
      (List.range' index ((tokenize text).length - index)).flatMap (callEvents text) :=
    collect_go_events index [] [] rfl
  cases operation with
  | hasNext | peek | peekNext => rfl
  | consume => simp [performEvents, consume, consumeEvents_onToken, Operation.calls]
  | next => exact next_events text index
  | nth skipped =>
      have taken : ((onToken text index).take skipped).events = _ :=
        take_go_events skipped index [] []
      have stands := (take_onToken within skipped).2
      have place : min (index + skipped) (tokenize text).length =
          index + min skipped ((tokenize text).length - index) := by omega
      have total : min (skipped + 1) ((tokenize text).length - index) =
          min skipped ((tokenize text).length - index) +
            min 1 ((tokenize text).length -
              (index + min skipped ((tokenize text).length - index))) := by omega
      simp only [performEvents, nth, Operation.calls]
      rw [taken, stands, place, next_events, total, ← List.range'_append_1, List.flatMap_append]
      rfl
  | take limit => exact take_go_events limit index [] []
  | count | last | collect => exact collected

theorem indexAfter_min (before : Nat) (operation : Operation) :
    operation.indexAfter text (min before (tokenize text).length) =
      min (before + operation.calls ((tokenize text).length - before)) (tokenize text).length := by
  cases operation <;> simp only [Operation.indexAfter, Operation.calls] <;> omega

/-- Past the last token an operation that still calls calls once. -/
theorem calls_min (before : Nat) (operation : Operation) :
    (List.range' (min before (tokenize text).length) (operation.calls
        ((tokenize text).length - min before (tokenize text).length))).flatMap (callEvents text) =
      (List.range' before (operation.calls ((tokenize text).length - before))).flatMap
        (callEvents text) := by
  by_cases within : before ≤ (tokenize text).length
  · rw [Nat.min_eq_left within]
  · have none : (tokenize text).length - min before (tokenize text).length = 0 := by omega
    have none' : (tokenize text).length - before = 0 := by omega
    rw [none, none']
    cases operation <;> simp [Operation.calls, callEvents_min]

/-- The operations report what their calls report, one call after another. -/
theorem eventsOf_onToken (text : List Char) (before : Nat) (operations : List Operation) :
    (onToken text (min before (tokenize text).length)).eventsOf operations =
      (List.range' before (Operation.callsAfter text before operations - before)).flatMap
        (callEvents text) := by
  induction operations generalizing before with
  | nil => simp [eventsOf, Operation.callsAfter]
  | cons operation later ih =>
      have within : min before (tokenize text).length ≤ (tokenize text).length :=
        Nat.min_le_right _ _
      have further := Operation.le_callsAfter text
        (before + operation.calls ((tokenize text).length - before)) later
      rw [eventsOf, performEvents_onToken within, calls_min, perform_onToken within, indexAfter_min,
        ih, Operation.callsAfter, ← List.flatMap_append, List.range'_append_1]
      congr 2
      omega

end Cursor

theorem trace_ofText (text : List Char) (operations : List Operation) :
    Cursor.openingEvents text ++ (Cursor.ofText text).eventsOf operations =
      traceAfter text (Operation.callsAfter text 0 operations) := by
  have opening : Cursor.openingEvents text =
      [createdEvent text, scanEvent text 0, scanEvent text 1] := by
    have current := Cursor.peek_onToken text 0
    have lookahead := Cursor.peekNext_onToken text 0
    simp only [Cursor.peek, Cursor.peekNext] at current lookahead
    simp only [Cursor.openingEvents, Cursor.ofText_eq_onToken, current, lookahead,
      Cursor.scanned_streamAt]
    rfl
  have calls := Cursor.eventsOf_onToken text 0 operations
  rw [Nat.zero_min] at calls
  rw [opening, Cursor.ofText_eq_onToken, calls, traceAfter, List.range_eq_range', Nat.sub_zero]
  rfl

theorem traceAfter_succ (text : List Char) (count : Nat) :
    traceAfter text (count + 1) = traceAfter text count ++ callEvents text count := by
  simp [traceAfter, List.range_succ]

def producedEvents (events : List Event) : List Event :=
  events.filter fun event => event.message == "Produced token"

def exhaustions (events : List Event) : Nat :=
  events.countP fun event => event.message == "Token stream exhausted"

theorem producedEvents_append (first second : List Event) :
    producedEvents (first ++ second) = producedEvents first ++ producedEvents second :=
  List.filter_append first second

theorem producedEvents_scanEvent (text : List Char) (number : Nat) :
    producedEvents [scanEvent text number] = (tokenize text)[number]?.toList.map producedEvent := by
  rw [scanEvent]
  cases (tokenize text)[number]? <;> rfl

theorem producedEvents_callEvents (text : List Char) (number : Nat) :
    producedEvents (callEvents text number) =
      (tokenize text)[number + 2]?.toList.map producedEvent := by
  have others : producedEvents (handOutEvents text number) = [] := by
    rw [handOutEvents]
    split <;> rfl
  have parts := producedEvents_append [scanEvent text (number + 2)] (handOutEvents text number)
  rwa [others, List.append_nil, producedEvents_scanEvent] at parts

/-- The tokens are reported as produced once each, in their order, two calls ahead. -/
theorem producedEvents_traceAfter (text : List Char) (count : Nat) :
    producedEvents (traceAfter text count) =
      ((tokenize text).take (count + 2)).map producedEvent := by
  induction count with
  | zero =>
      have created : producedEvents [createdEvent text] = [] := rfl
      have opening : traceAfter text 0 =
          [createdEvent text] ++ ([scanEvent text 0] ++ [scanEvent text 1]) := rfl
      rw [opening, producedEvents_append, producedEvents_append, created, producedEvents_scanEvent,
        producedEvents_scanEvent, List.nil_append, ← List.map_append, List.take_add_one,
        List.take_add_one]
      rfl
  | succ count ih =>
      rw [traceAfter_succ, producedEvents_append, ih, producedEvents_callEvents, ← List.map_append,
        ← List.take_add_one]

theorem exhaustions_scanEvent (text : List Char) (number : Nat) :
    exhaustions [scanEvent text number] = 0 := by
  rw [scanEvent]
  cases (tokenize text)[number]? <;> rfl

theorem exhaustions_append (first second : List Event) :
    exhaustions (first ++ second) = exhaustions first + exhaustions second :=
  List.countP_append

theorem exhaustions_callEvents (text : List Char) (number : Nat) :
    exhaustions (callEvents text number) =
      if number + 1 = (tokenize text).length then 1 else 0 := by
  have others : exhaustions (handOutEvents text number) =
      if number + 1 = (tokenize text).length then 1 else 0 := by
    rw [handOutEvents]
    split <;> rfl
  have parts := exhaustions_append [scanEvent text (number + 2)] (handOutEvents text number)
  rwa [others, exhaustions_scanEvent, Nat.zero_add] at parts

/-- The end is reported with the last token that is handed out, and never again. -/
theorem exhaustions_traceAfter (text : List Char) (count : Nat) :
    exhaustions (traceAfter text count) =
      if 0 < (tokenize text).length ∧ (tokenize text).length ≤ count then 1 else 0 := by
  induction count with
  | zero =>
      have opening : traceAfter text 0 =
          [createdEvent text] ++ ([scanEvent text 0] ++ [scanEvent text 1]) := rfl
      have none : ¬(0 < (tokenize text).length ∧ (tokenize text).length ≤ 0) := by omega
      rw [opening, exhaustions_append, exhaustions_append, exhaustions_scanEvent,
        exhaustions_scanEvent, if_neg none]
      rfl
  | succ count ih =>
      rw [traceAfter_succ, exhaustions_append, ih, exhaustions_callEvents]
      split <;> split <;> split <;> omega

/-- The events of a cursor are those of its calls, in their order and by their numbers alone: the
making, two scans, and for each call a scan, the end with the last token, and the token.  Under
any operations, tokens are reported as produced once each and in order, the end is reported once
and only with a last token, and asking for a token at the end reports nothing. -/
theorem trace_records_calls (text : List Char) :
    (∀ count, Cursor.openingEvents text ++
        (Cursor.ofText text).eventsOf (List.replicate count .consume) = traceAfter text count) ∧
    ∀ operations,
      let trace := Cursor.openingEvents text ++ (Cursor.ofText text).eventsOf operations
      let reached := ((Cursor.ofText text).run operations).2
      let calls := Operation.callsAfter text 0 operations
      trace = traceAfter text calls ∧
        producedEvents trace = ((tokenize text).take (calls + 2)).map producedEvent ∧
        exhaustions trace =
          (if 0 < (tokenize text).length ∧ (tokenize text).length ≤ calls then 1 else 0) ∧
        (reached.hasNext = false → reached.next.events = []) := by
  constructor
  · intro count
    rw [trace_ofText, Operation.callsAfter_replicate_consume, Nat.zero_add]
  · intro operations trace reached calls
    have recorded : trace = traceAfter text calls := trace_ofText text operations
    refine ⟨recorded, ?_, ?_, ?_⟩
    · rw [recorded, producedEvents_traceAfter]
    · rw [recorded, exhaustions_traceAfter]
    · intro ended
      simp [Cursor.next, ended]

end TokenStream
