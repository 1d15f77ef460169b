import TokenStream.Proofs.Cursor

namespace TokenStream

open TokenStream.Text

/-! A cursor is an index into the list of tokens.

`Operation.answerAt` and `Operation.indexAfter` say what each operation answers and
where it leads on the list alone.  A cursor answers the same, step by step
(`Cursor.perform_onToken`) and over any list of operations (`Cursor.run_onToken`).
-/

inductive Operation where
  | hasNext
  | peek
  | peekNext
  | consume
  | next
  | nth (skipped : Nat)
  | take (limit : Nat)
  | count
  | last
  | collect
deriving Repr, DecidableEq

inductive Answer where
  | flag (value : Bool)
  | token (value : Token)
  | item (value : Option Token)
  | items (value : List Token)
  | number (value : Nat)
deriving Repr, DecidableEq

namespace Cursor

def perform (cursor : Cursor) : Operation → Answer × Cursor
  | .hasNext => (.flag cursor.hasNext, cursor)
  | .peek => (.token cursor.peek, cursor)
  | .peekNext => (.token cursor.peekNext, cursor)
  | .consume => (.token cursor.consume.value, cursor.consume.cursor)
  | .next => (.item cursor.next.value, cursor.next.cursor)
  | .nth skipped => (.item (cursor.nth skipped).value, (cursor.nth skipped).cursor)
  | .take limit => (.items (cursor.take limit).value, (cursor.take limit).cursor)
  | .count => (.number cursor.count.value, cursor.count.cursor)
  | .last => (.item cursor.last.value, cursor.last.cursor)
  | .collect => (.items cursor.collect.value, cursor.collect.cursor)

def run (cursor : Cursor) : List Operation → List Answer × Cursor
  | [] => ([], cursor)
  | operation :: later =>
      let (answer, middle) := cursor.perform operation
      let (answers, after) := middle.run later
      (answer :: answers, after)

end Cursor

/-- The tokens of a text, and from their number on the end of the text. -/
def streamAt (text : List Char) (index : Nat) : Token :=
  (tokenize text)[index]?.getD (Token.endAt (Position.ofOffset text (byteLength text)))

namespace Operation

/-- What the list of tokens answers at an index. -/
def answerAt (text : List Char) (index : Nat) : Operation → Answer
  | .hasNext => .flag (decide (index < (tokenize text).length))
  | .peek | .consume => .token (streamAt text index)
  | .peekNext => .token (streamAt text (index + 1))
  | .next => .item (tokenize text)[index]?
  | .nth skipped => .item (tokenize text)[index + skipped]?
  | .take limit => .items (((tokenize text).drop index).take limit)
  | .count => .number ((tokenize text).length - index)
  | .last => .item ((tokenize text).drop index).getLast?
  | .collect => .items ((tokenize text).drop index)

/-- Where an operation leads.  No operation leads back, and none past the last token. -/
def indexAfter (text : List Char) (index : Nat) : Operation → Nat
  | .hasNext | .peek | .peekNext => index
  | .consume | .next => min (index + 1) (tokenize text).length
  | .nth skipped => min (index + skipped + 1) (tokenize text).length
  | .take limit => min (index + limit) (tokenize text).length
  | .count | .last | .collect => (tokenize text).length

def runAt (text : List Char) (index : Nat) : List Operation → List Answer × Nat
  | [] => ([], index)
  | operation :: later =>
      let (answers, after) := runAt text (operation.indexAfter text index) later
      (operation.answerAt text index :: answers, after)

theorem indexAfter_bounds {text : List Char} {index : Nat} (operation : Operation)
    (within : index ≤ (tokenize text).length) :
    index ≤ operation.indexAfter text index ∧
      operation.indexAfter text index ≤ (tokenize text).length := by
  cases operation <;> simp only [indexAfter] <;> omega

theorem runAt_bounds {text : List Char} {index : Nat} (operations : List Operation)
    (within : index ≤ (tokenize text).length) :
    index ≤ (runAt text index operations).2 ∧
      (runAt text index operations).2 ≤ (tokenize text).length := by
  induction operations generalizing index with
  | nil => exact ⟨Nat.le_refl _, within⟩
  | cons operation later ih =>
      obtain ⟨lower, upper⟩ := operation.indexAfter_bounds within
      obtain ⟨lowerLater, upperLater⟩ := ih upper
      exact ⟨Nat.le_trans lower lowerLater, upperLater⟩

/-- Whether the operation hands out every token that it passes. -/
def keepsAll : Operation → Bool
  | .nth _ | .count | .last => false
  | _ => true

/-- The tokens that an answer hands out; looking at a token does not hand it out. -/
def handedOut : Operation → Answer → List Token
  | .consume, .token token => if token.isEnd then [] else [token]
  | .next, .item token => token.toList
  | .take _, .items tokens => tokens
  | .collect, .items tokens => tokens
  | _, _ => []

theorem handedOut_answerAt {text : List Char} {index : Nat} {operation : Operation}
    (keeps : operation.keepsAll = true) (within : index ≤ (tokenize text).length) :
    operation.handedOut (operation.answerAt text index) =
      ((tokenize text).drop index).take (operation.indexAfter text index - index) := by
  have first : ((tokenize text).drop index).take (min (index + 1) (tokenize text).length - index) =
      (tokenize text)[index]?.toList := by
    by_cases more : index < (tokenize text).length
    · have single : min (index + 1) (tokenize text).length - index = 1 := by omega
      rw [single, List.drop_eq_getElem_cons more, List.take_succ_cons, List.take_zero,
        List.getElem?_eq_getElem more, Option.toList_some]
    · rw [List.drop_eq_nil_of_le (by omega), List.getElem?_eq_none (by omega)]
      simp
  cases operation with
  | hasNext | peek | peekNext => simp [handedOut, indexAfter]
  | consume =>
      simp only [handedOut, answerAt, indexAfter, first, streamAt]
      by_cases more : index < (tokenize text).length
      · have token := isEnd_of_mem_tokenize (List.getElem_mem more)
        simp [more, token]
      · simp [List.getElem?_eq_none (Nat.le_of_not_lt more)]
  | next => simp only [handedOut, answerAt, indexAfter, first]
  | take limit =>
      simp only [handedOut, answerAt, indexAfter]
      rw [List.take_eq_take_iff, List.length_drop]
      omega
  | collect =>
      simp only [handedOut, answerAt, indexAfter]
      rw [List.take_of_length_le (by rw [List.length_drop])]
  | nth | count | last => contradiction

theorem handedOut_runAt {text : List Char} {index : Nat} {operations : List Operation}
    (keep : ∀ operation ∈ operations, operation.keepsAll = true)
    (within : index ≤ (tokenize text).length) :
    (List.zipWith handedOut operations (runAt text index operations).1).flatten =
      ((tokenize text).drop index).take ((runAt text index operations).2 - index) := by
  induction operations generalizing index with
  | nil => simp [runAt]
  | cons operation later ih =>
      obtain ⟨keeps, keepLater⟩ := List.forall_mem_cons.mp keep
      obtain ⟨lower, upper⟩ := operation.indexAfter_bounds within
      have lowerLater := (runAt_bounds later upper).1
      simp only [runAt, List.zipWith_cons_cons, List.flatten_cons]
      rw [handedOut_answerAt keeps within, ih keepLater upper]
      generalize operation.indexAfter text index = middle at *
      generalize (runAt text middle later).2 = last at *
      have total : last - index = (middle - index) + (last - middle) := by omega
      have place : index + (middle - index) = middle := by omega
      rw [total, List.take_add, List.drop_drop, place]

end Operation

theorem atEndOf_eq_endAt (text : List Char) :
    Token.atEndOf text = Token.endAt (Position.ofOffset text (byteLength text)) := by
  rw [Token.atEndOf, Position.ofOffset_byteLength]

namespace Cursor

variable {text : List Char} {index : Nat}

theorem peek_onToken (text : List Char) (index : Nat) :
    (onToken text index).peek = streamAt text index := by
  rw [streamAt, tokenize_eq_tokens, ← atEndOf_eq_endAt]
  exact current_onToken text index

theorem peekNext_onToken (text : List Char) (index : Nat) :
    (onToken text index).peekNext = streamAt text (index + 1) := by
  rw [streamAt, tokenize_eq_tokens, ← atEndOf_eq_endAt]
  exact lookahead_onToken text index

theorem advance_onToken_min (within : index ≤ (tokenize text).length) :
    (onToken text index).advance = onToken text (min (index + 1) (tokenize text).length) := by
  rw [advance_onToken, tokenize_eq_tokens]
  rw [tokenize_eq_tokens] at within
  by_cases more : index < (Scanner.between [] text).tokens.length
  · rw [Nat.min_eq_left more]
  · rw [Nat.min_eq_right (by omega), onToken_of_length_lt (by omega)]

theorem next_onToken (within : index ≤ (tokenize text).length) :
    (onToken text index).next.value = (tokenize text)[index]? ∧
      (onToken text index).next.cursor =
        onToken text (min (index + 1) (tokenize text).length) := by
  have current := peek_onToken text index
  have advanced := advance_onToken_min within
  simp only [next, hasNext_onToken, ← tokenize_eq_tokens]
  by_cases more : index < (tokenize text).length
  · simp only [more, decide_true, ↓reduceIte]
    refine ⟨?_, advanced⟩
    rw [List.getElem?_eq_getElem more]
    simpa [peek, streamAt, more] using current
  · obtain rfl : index = (tokenize text).length := by omega
    simp

theorem take_onToken (within : index ≤ (tokenize text).length) (limit : Nat) :
    ((onToken text index).take limit).value = ((tokenize text).drop index).take limit ∧
      ((onToken text index).take limit).cursor =
        onToken text (min (index + limit) (tokenize text).length) := by
  rw [tokenize_eq_tokens] at within ⊢
  exact take_go_onToken limit index [] [] within

theorem collect_onToken (within : index ≤ (tokenize text).length) :
    (onToken text index).collect.value = (tokenize text).drop index ∧
      (onToken text index).collect.cursor = onToken text (tokenize text).length := by
  rw [tokenize_eq_tokens] at within ⊢
  exact takeUntil_go_onToken index [] [] (Nat.add_sub_cancel' within)

theorem perform_onToken (within : index ≤ (tokenize text).length) (operation : Operation) :
    (onToken text index).perform operation =
      (operation.answerAt text index, onToken text (operation.indexAfter text index)) := by
  cases operation with
  | hasNext => rw [perform, hasNext_onToken, ← tokenize_eq_tokens]; rfl
  | peek => rw [perform, peek_onToken]; rfl
  | peekNext => rw [perform, peekNext_onToken]; rfl
  | consume =>
      rw [perform, consume, advance_onToken_min within]
      exact congrArg (fun token => (Answer.token token, _)) (peek_onToken text index)
  | next =>
      obtain ⟨value, cursor⟩ := next_onToken within
      rw [perform, value, cursor]; rfl
  | nth skipped =>
      obtain ⟨_, passed⟩ := take_onToken within skipped
      obtain ⟨value, cursor⟩ := next_onToken
        (Nat.min_le_right (index + skipped) (tokenize text).length)
      have same : (tokenize text)[min (index + skipped) (tokenize text).length]? =
          (tokenize text)[index + skipped]? := by
        by_cases more : index + skipped < (tokenize text).length
        · rw [Nat.min_eq_left (Nat.le_of_lt more)]
        · rw [Nat.min_eq_right (by omega), List.getElem?_eq_none (Nat.le_refl _),
            List.getElem?_eq_none (by omega)]
      have bound : min (min (index + skipped) (tokenize text).length + 1) (tokenize text).length =
          min (index + skipped + 1) (tokenize text).length := by omega
      rw [perform, nth, passed, value, cursor, same, bound]; rfl
  | take limit =>
      obtain ⟨value, cursor⟩ := take_onToken within limit
      rw [perform, value, cursor]; rfl
  | count =>
      obtain ⟨value, cursor⟩ := collect_onToken within
      rw [perform, count, value, cursor, List.length_drop]; rfl
  | last =>
      obtain ⟨value, cursor⟩ := collect_onToken within
      rw [perform, last, value, cursor]; rfl
  | collect =>
      obtain ⟨value, cursor⟩ := collect_onToken within
      rw [perform, value, cursor]; rfl

theorem run_onToken (within : index ≤ (tokenize text).length) (operations : List Operation) :
    (onToken text index).run operations =
      ((Operation.runAt text index operations).1,
        onToken text (Operation.runAt text index operations).2) := by
  induction operations generalizing index with
  | nil => rfl
  | cons operation later ih =>
      rw [run, perform_onToken within operation]
      simp only [ih (operation.indexAfter_bounds within).2, Operation.runAt]

/-- What is seen of a cursor that stands on the token with the index. -/
structure StandsAt (cursor : Cursor) (text : List Char) (index : Nat) : Prop where
  within : index ≤ (tokenize text).length
  hasNext : cursor.hasNext = true ↔ index < (tokenize text).length
  peek : cursor.peek = streamAt text index
  peekNext : cursor.peekNext = streamAt text (index + 1)
  position : cursor.position =
    if index + 1 < (tokenize text).length then (streamAt text (index + 1)).span.stop
    else Position.ofOffset text (byteLength text)

theorem standsAt_onToken (within : index ≤ (tokenize text).length) :
    (onToken text index).StandsAt text index where
  within := within
  hasNext := by rw [hasNext_onToken, decide_eq_true_iff, tokenize_eq_tokens]
  peek := peek_onToken text index
  peekNext := peekNext_onToken text index
  position := by
    have ahead : (onToken text index).lookahead = streamAt text (index + 1) :=
      peekNext_onToken text index
    rw [position_onToken, ahead]
    by_cases more : index + 1 < (tokenize text).length
    · rw [if_pos more]
    · rw [if_neg more, streamAt, List.getElem?_eq_none (by omega)]
      rfl

end Cursor

/-- A cursor is an index into the list of tokens, under any operations in any order: it starts at
zero, every answer is the one that the list gives at the index, and what is seen of the cursor in
between is what the list shows there.  A cursor at the end does not change any more, and a run
without skips hands out each token once and in order. -/
theorem run_ofText_follows_list (text : List Char) (operations : List Operation) :
    let reached := (Cursor.ofText text).run operations
    let expected := Operation.runAt text 0 operations
    reached.1 = expected.1 ∧
      reached.2.StandsAt text expected.2 ∧
      (reached.2.hasNext = false → ∀ later, (reached.2.run later).2 = reached.2) ∧
      ((∀ operation ∈ operations, operation.keepsAll = true) →
        (List.zipWith Operation.handedOut operations reached.1).flatten =
          (tokenize text).take expected.2) := by
  have bounds := Operation.runAt_bounds operations (Nat.zero_le (tokenize text).length)
  rw [Cursor.ofText_eq_onToken, Cursor.run_onToken (Nat.zero_le _)]
  refine ⟨rfl, Cursor.standsAt_onToken bounds.2, ?_, ?_⟩
  · intro ended later
    rw [Cursor.hasNext_onToken, ← tokenize_eq_tokens] at ended
    have boundsLater := Operation.runAt_bounds later bounds.2
    rw [Cursor.run_onToken bounds.2]
    have stays : (Operation.runAt text (Operation.runAt text 0 operations).2 later).2 =
        (Operation.runAt text 0 operations).2 := by
      simp only [decide_eq_false_iff_not] at ended
      omega
    rw [stays]
  · intro keep
    simpa using Operation.handedOut_runAt keep (Nat.zero_le _)

/-- A run to the end of a short text: it stays at the end and has handed out every token. -/
theorem run_ofText_to_end :
    let text := ['a', '=', '1']
    let operations := [.consume, .next, .take 5]
    let reached := (Cursor.ofText text).run operations
    reached.2.hasNext = false ∧ (∀ later, (reached.2.run later).2 = reached.2) ∧
      (List.zipWith Operation.handedOut operations reached.1).flatten = tokenize text := by
  intro text operations reached
  have ended : reached.2.hasNext = false := by decide
  obtain ⟨_, stands, stays, once⟩ := run_ofText_follows_list text operations
  have all : (tokenize text).length ≤ (Operation.runAt text 0 operations).2 := by
    apply Nat.le_of_not_lt
    intro more
    have next := stands.hasNext.mpr more
    simp [reached, next] at ended
  refine ⟨ended, stays ended, ?_⟩
  rw [once (by decide), List.take_of_length_le all]

end TokenStream
