import TokenStream.Cursor
import TokenStream.Proofs.Scanner

namespace TokenStream

open TokenStream.Text

/-! The states of a cursor.

A cursor holds two tokens and a scanner that has read both, and consuming moves all
three.  The state after a number of steps is that many steps of one scanner
(`Cursor.onToken`), so one index settles a cursor, and past the last token the
index makes no difference any more (`Cursor.onToken_of_length_lt`).
-/

namespace Cursor

/-- The cursor on the token with the index, counted from zero. -/
def onToken (text : List Char) (index : Nat) : Cursor :=
  { scanner := (Scanner.between [] text).skip (index + 2)
    current := ((Scanner.between [] text).skip index).next.1
    lookahead := ((Scanner.between [] text).skip (index + 1)).next.1 }

theorem ofText_eq_onToken (text : List Char) : ofText text = onToken text 0 := rfl

theorem advance_onToken (text : List Char) (index : Nat) :
    (onToken text index).advance = onToken text (index + 1) := rfl

theorem onToken_of_length_lt {text : List Char} {index : Nat}
    (ended : (Scanner.between [] text).tokens.length < index) :
    onToken text index = onToken text (Scanner.between [] text).tokens.length := by
  have stands (extra : Nat) (behind : (Scanner.between [] text).tokens.length ≤ extra) :
      (Scanner.between [] text).skip (extra + 1) = Scanner.between text [] :=
    Scanner.skip_between_of_length_le behind
  have handsOut (extra : Nat) (behind : (Scanner.between [] text).tokens.length ≤ extra) :
      ((Scanner.between [] text).skip extra).next.1 = Token.atEndOf text := by
    rw [Scanner.next_skip_between, List.getElem?_eq_none behind, Option.getD_none,
      List.nil_append]
  simp only [onToken]
  rw [stands (index + 1) (by omega), stands (_ + 1) (by omega), handsOut index (by omega),
    handsOut _ (Nat.le_refl _), handsOut (index + 1) (by omega), handsOut (_ + 1) (by omega)]

theorem current_onToken (text : List Char) (index : Nat) :
    (onToken text index).current =
      (Scanner.between [] text).tokens[index]?.getD (Token.atEndOf text) :=
  Scanner.next_skip_between [] text index

theorem current_onToken_of_lt {text : List Char} {index : Nat}
    (more : index < (Scanner.between [] text).tokens.length) :
    (onToken text index).current = (Scanner.between [] text).tokens[index] := by
  rw [current_onToken, List.getElem?_eq_getElem more, Option.getD_some]

theorem lookahead_onToken (text : List Char) (index : Nat) :
    (onToken text index).lookahead =
      (Scanner.between [] text).tokens[index + 1]?.getD (Token.atEndOf text) :=
  Scanner.next_skip_between [] text (index + 1)

theorem position_onToken (text : List Char) (index : Nat) :
    (onToken text index).position = (onToken text index).lookahead.span.stop :=
  Scanner.next_position _

theorem hasNext_onToken (text : List Char) (index : Nat) :
    (onToken text index).hasNext = decide (index < (Scanner.between [] text).tokens.length) := by
  by_cases more : index < (Scanner.between [] text).tokens.length
  · have token := Scanner.isEnd_of_mem_tokens (List.getElem_mem more)
    simp [hasNext, current_onToken_of_lt more, more, token]
  · have current := current_onToken text index
    rw [List.getElem?_eq_none (by omega), Option.getD_none] at current
    simp [hasNext, current, more, Token.atEndOf]

/-- Taking tokens up to the end hands out what is left and leaves the cursor on the end. -/
theorem takeUntil_go_onToken {text : List Char} {left : Nat} (index : Nat) (taken : List Token)
    (events : List Journal.Event) (total : index + left = (Scanner.between [] text).tokens.length) :
    (takeUntil.go (fun _ => false) (onToken text index) taken events).value =
        taken.reverse ++ (Scanner.between [] text).tokens.drop index ∧
      (takeUntil.go (fun _ => false) (onToken text index) taken events).cursor =
        onToken text (Scanner.between [] text).tokens.length := by
  induction left generalizing index taken events with
  | zero =>
      obtain rfl : index = (Scanner.between [] text).tokens.length := by omega
      rw [takeUntil.go]
      simp [hasNext_onToken]
  | succ left ih =>
      have more : index < (Scanner.between [] text).tokens.length := by omega
      have later := ih (index + 1) ((Scanner.between [] text).tokens[index] :: taken)
        ((onToken text index).consumeEvents.reverse ++ events) (by omega)
      rw [takeUntil.go]
      simp only [hasNext_onToken, more, decide_true, ↓reduceDIte, Bool.false_eq_true, ↓reduceIte,
        advance_onToken, current_onToken_of_lt more]
      rw [List.drop_eq_getElem_cons more]
      simpa using later

theorem take_go_onToken {text : List Char} (count index : Nat) (taken : List Token)
    (events : List Journal.Event) (within : index ≤ (Scanner.between [] text).tokens.length) :
    (take.go (onToken text index) taken events count).value =
        taken.reverse ++ ((Scanner.between [] text).tokens.drop index).take count ∧
      (take.go (onToken text index) taken events count).cursor =
        onToken text (min (index + count) (Scanner.between [] text).tokens.length) := by
  induction count generalizing index taken events with
  | zero => simp [take.go, Nat.min_eq_left within]
  | succ count ih =>
      by_cases more : index < (Scanner.between [] text).tokens.length
      · have later := ih (index + 1) ((Scanner.between [] text).tokens[index] :: taken)
          ((onToken text index).consumeEvents.reverse ++ events) (by omega)
        simp only [take.go, hasNext_onToken, more, decide_true, ↓reduceIte, advance_onToken,
          current_onToken_of_lt more]
        rw [List.drop_eq_getElem_cons more, List.take_succ_cons]
        simpa [Nat.add_assoc, Nat.add_comm 1] using later
      · obtain rfl : index = (Scanner.between [] text).tokens.length := by omega
        simp [take.go, hasNext_onToken]

end Cursor

theorem tokenize_eq_tokens (text : List Char) :
    tokenize text = (Scanner.between [] text).tokens :=
  (Cursor.takeUntil_go_onToken 0 [] [] (Nat.zero_add _)).1

theorem isEnd_of_mem_tokenize {text : List Char} {token : Token} (member : token ∈ tokenize text) :
    token.isEnd = false := by
  rw [tokenize_eq_tokens] at member
  exact Scanner.isEnd_of_mem_tokens member

end TokenStream
