import TokenStream.Proofs.Json.Grammar

namespace TokenStream.Json

/-- A part of a string: a character, or an escape with the number of half a character or a whole
one. -/
inductive Piece where
  | character (c : Char)
  | unit (code : Nat)
deriving Repr, DecidableEq

/-- A JSON value with its strings as they are spelt.  A value that nobody asked for may hold escapes
that stand for no text, so only strings that are asked for have to decode. -/
abbrev Form :=
  Tree (List Piece)

/-- The text that a string stands for, unless there is half a character in it. -/
def decode? : List Piece → Option (List Char)
  | [] => some []
  | .character c :: pieces => (decode? pieces).map (c :: ·)
  | .unit code :: pieces =>
      if isHighSurrogate code then
        match pieces with
        | .unit low :: pieces =>
            if isLowSurrogate low then
              (decode? pieces).map
                (Char.ofNat (0x10000 + (code - 0xD800) * 0x400 + (low - 0xDC00)) :: ·)
            else none
        | _ => none
      else if isLowSurrogate code then none
      else (decode? pieces).map (Char.ofNat code :: ·)

namespace Spelt

/-- The parts of a string and its closing mark. -/
inductive Pieces : List Char → List Piece → List Char → Prop
  | close : Pieces ('"' :: rest) [] rest
  | plain (visible : ' ' ≤ c) (noMark : c ≠ '"') (noBackslash : c ≠ '\\')
      (later : Pieces text pieces rest) : Pieces (c :: text) (.character c :: pieces) rest
  | escape (known : plainEscape mark = some c) (later : Pieces text pieces rest) :
      Pieces ('\\' :: mark :: text) (.character c :: pieces) rest
  | unit (digits : fourHex a b c d = some code) (later : Pieces text pieces rest) :
      Pieces ('\\' :: 'u' :: a :: b :: c :: d :: text) (.unit code :: pieces) rest

/-- The text is one value, spelt so, with nothing but blanks around it. -/
abbrev Document (text : List Char) (form : Form) : Prop :=
  Grammar.Document Pieces text form

end Spelt

namespace Grammar

open Spelt (Pieces)

/-- A string in the stricter grammar is one that is spelt in any way and decodes. -/
theorem characters_iff_decodes :
    Characters text word rest ↔ ∃ pieces, Pieces text pieces rest ∧ decode? pieces = some word := by
  constructor
  · intro characters
    induction characters with
    | close => exact ⟨[], .close, rfl⟩
    | plain visible noMark noBackslash _ ih =>
        obtain ⟨pieces, spelt, decodes⟩ := ih
        exact ⟨_, .plain visible noMark noBackslash spelt, by simp [decode?, decodes]⟩
    | escape known _ ih =>
        obtain ⟨pieces, spelt, decodes⟩ := ih
        exact ⟨_, .escape known spelt, by simp [decode?, decodes]⟩
    | unit digits notHigh notLow _ ih =>
        obtain ⟨pieces, spelt, decodes⟩ := ih
        refine ⟨_, .unit digits spelt, ?_⟩
        rw [decode?.eq_def]
        simp [notHigh, notLow, decodes]
    | pair digits isHigh digits' isLow _ ih =>
        obtain ⟨pieces, spelt, decodes⟩ := ih
        exact ⟨_, .unit digits (.unit digits' spelt), by simp [decode?, isHigh, isLow, decodes]⟩
  · rintro ⟨pieces, spelt, decodes⟩
    fun_induction decode? pieces generalizing text word with
    | case1 =>
        cases spelt
        cases decodes
        exact .close
    | case2 c pieces ih =>
        obtain ⟨word, decoded, rfl⟩ := Option.map_eq_some_iff.mp decodes
        cases spelt with
        | plain visible noMark noBackslash later =>
            exact .plain visible noMark noBackslash (ih later decoded)
        | escape known later => exact .escape known (ih later decoded)
    | case3 code isHigh low pieces isLow ih =>
        obtain ⟨word, decoded, rfl⟩ := Option.map_eq_some_iff.mp decodes
        cases spelt with
        | unit digits later =>
            cases later with
            | unit digits' later => exact .pair digits isHigh digits' isLow (ih later decoded)
    | case4 => cases decodes
    | case5 => cases decodes
    | case6 => cases decodes
    | case7 code pieces notHigh notLow ih =>
        obtain ⟨word, decoded, rfl⟩ := Option.map_eq_some_iff.mp decodes
        cases spelt with
        | unit digits later =>
            exact .unit digits (by simpa using notHigh) (by simpa using notLow) (ih later decoded)

end Grammar

end TokenStream.Json
