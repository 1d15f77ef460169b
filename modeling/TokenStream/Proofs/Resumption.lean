import Mathlib.Algebra.BigOperators.Group.List.Basic
import TokenStream.Proofs.Cursor

namespace TokenStream

open TokenStream.Text

/-! Stopping and starting again makes no difference to a scan.

A scanner counts lines and columns as it goes, while one that is made for an offset
counts them from the top of the text.  They agree wherever a scanner can stand
(`Scanner.OnBoundary.resume_offset`), so it may be replaced at any time
(`Scanner.calls_of_onBoundary`) or be made anew for every token (`rescan_eq_tokens`).
-/

namespace Scanner

/-- The scanner stands between two characters of the text, with the lines counted right. -/
def OnBoundary (text : List Char) (scanner : Scanner) : Prop :=
  ∃ before rest, text = before ++ rest ∧ scanner = between before rest

theorem onBoundary_ofText (text : List Char) : (ofText text).OnBoundary text :=
  ⟨[], text, rfl, ofText_eq_between text⟩

theorem onBoundary_resume (text : List Char) (offset : Nat) :
    (resume text offset).OnBoundary text := by
  have whole := splitAtByte_append offset text
  refine ⟨(splitAtByte offset text).1, (splitAtByte offset text).2, whole.symm, ?_⟩
  rw [between, whole, Position.walk_start]
  rfl

namespace OnBoundary

variable {text : List Char} {scanner : Scanner}

theorem next (stands : scanner.OnBoundary text) : scanner.next.2.OnBoundary text := by
  obtain ⟨before, rest, rfl, rfl⟩ := stands
  obtain ⟨_, passed, ahead, split, reached, _⟩ := next_between before rest
  exact ⟨passed, ahead, split, reached⟩

theorem resume_offset (stands : scanner.OnBoundary text) :
    resume text scanner.offset = scanner := by
  obtain ⟨before, rest, rfl, rfl⟩ := stands
  rw [offset_between, resume_boundary]

end OnBoundary

/-- Calls of a scanner one after another: where each starts, what it hands out and where it ends.
A call that is marked is made on a new scanner for the offset of the old one. -/
def calls (text : List Char) (scanner : Scanner) : List Bool → List (Position × Token × Position)
  | [] => []
  | renewed :: later =>
      let ready := if renewed then resume text scanner.offset else scanner
      (ready.position, ready.next.1, ready.next.2.position) :: calls text ready.next.2 later

theorem calls_of_onBoundary {text : List Char} {scanner : Scanner}
    (stands : scanner.OnBoundary text) (marks : List Bool) :
    scanner.calls text marks = scanner.calls text (List.replicate marks.length false) := by
  induction marks generalizing scanner with
  | nil => rfl
  | cons renewed later ih =>
      have ready : (if renewed then resume text scanner.offset else scanner) = scanner := by
        rw [stands.resume_offset, ite_self]
      rw [List.length_cons, List.replicate_succ, calls, calls, ready]
      simp only [Bool.false_eq_true, ↓reduceIte]
      rw [ih stands.next]

theorem length_tokens_le (before rest : List Char) :
    (between before rest).tokens.length ≤ (rest.filter fun c => !isWhiteSpace c).length := by
  rw [← tokens_text before rest, List.length_flatMap, ← List.length_map]
  apply List.length_le_sum_of_one_le
  intro size member
  obtain ⟨token, inTokens, rfl⟩ := List.mem_map.mp member
  obtain ⟨passed, kind, word, after, _, lexeme, _, rfl⟩ := mem_tokens_between inTokens
  exact List.length_pos_iff.mpr lexeme.ne_nil

end Scanner

theorem nextToken_fst (text : List Char) (offset : Nat) :
    (nextToken text offset).1 = (Scanner.resume text offset).next.1 := rfl

theorem resume_nextToken (text : List Char) (offset : Nat) :
    Scanner.resume text (nextToken text offset).2 = (Scanner.resume text offset).next.2 :=
  (Scanner.onBoundary_resume text offset).next.resume_offset

/-- The tokens found from an offset on when each call starts at the offset that the call before gave
back, up to the call that finds the end. -/
def rescan (text : List Char) (offset : Nat) : List Token :=
  if (nextToken text offset).1.isEnd then []
  else (nextToken text offset).1 :: rescan text (nextToken text offset).2
termination_by (Scanner.resume text offset).rest.length
decreasing_by
  have more : (nextToken text offset).1.isEnd = false := by
    simpa using ‹¬(nextToken text offset).1.isEnd = true›
  rw [resume_nextToken]
  exact Scanner.next_rest_lt _ more

theorem rescan_eq_tokens (text : List Char) (offset : Nat) :
    rescan text offset = (Scanner.resume text offset).tokens := by
  induction offset using rescan.induct text with
  | case1 offset ended =>
      rw [rescan, if_pos ended]
      rw [nextToken_fst] at ended
      rw [Scanner.tokens, if_pos ended]
  | case2 offset more ih =>
      rw [rescan, if_neg more, ih, resume_nextToken]
      rw [nextToken_fst] at more ⊢
      rw [Scanner.tokens.eq_def (Scanner.resume text offset), if_neg more]

/-- Scanning anew from each offset gives all tokens, in no more calls than there are characters to
find, and a scanner may be replaced before any of its calls without a trace. -/
theorem resumption_keeps_tokens (text : List Char) :
    rescan text 0 = tokenize text ∧
      (rescan text 0).length ≤ (text.filter fun c => !isWhiteSpace c).length ∧
      ∀ marks : List Bool, (Scanner.ofText text).calls text marks =
        (Scanner.ofText text).calls text (List.replicate marks.length false) := by
  have all : rescan text 0 = (Scanner.between [] text).tokens := by
    rw [rescan_eq_tokens, ← byteLength_nil]
    exact congrArg Scanner.tokens (Scanner.resume_boundary [] text)
  refine ⟨?_, ?_, ?_⟩
  · rw [all, tokenize_eq_tokens]
  · rw [all]
    exact Scanner.length_tokens_le [] text
  · exact Scanner.calls_of_onBoundary (Scanner.onBoundary_ofText text)

end TokenStream
