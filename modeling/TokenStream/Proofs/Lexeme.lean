import Mathlib.Data.List.TakeWhile
import TokenStream.Scanner
import TokenStream.Proofs.CharClass

namespace TokenStream

open TokenStream.Text

/-! The texts that tokens can have, and why there is only one way to read the next one.

`Lexeme` and `Extends` say what a token of each kind is and which characters would
make it longer.  The first character of a lexeme settles its kind, and where the
lexeme cannot be extended the rest of it is settled as well (`Lexeme.unique`).
-/

/-- The texts of the tokens of a kind. -/
inductive Lexeme : TokenKind → List Char → Prop
  | special (inside : isSpecial c = true) : Lexeme .special [c]
  | number (nonempty : word ≠ []) (digits : ∀ c ∈ word, isDecimalDigit c = true) :
      Lexeme .number word
  | identifier (first : isIdentifierStart c = true)
      (later : ∀ d ∈ rest, isIdentifierContinue d = true) : Lexeme .identifier (c :: rest)
  | operator (nonempty : word ≠ []) (symbols : ∀ c ∈ word, isOperator c = true) :
      Lexeme .operator word
  | other (left : CharClass.of c = .other) : Lexeme .other [c]

/-- The characters that make a token of a kind longer when they follow it. -/
inductive Extends : TokenKind → Char → Prop
  | number (digit : isDecimalDigit c = true) : Extends .number c
  | identifier (letter : isIdentifierContinue c = true) : Extends .identifier c
  | operator (symbol : isOperator c = true) : Extends .operator c

/-- A token of the kind ends where the text goes on like this. -/
def Stops (kind : TokenKind) (after : List Char) : Prop :=
  ∀ c, after.head? = some c → ¬ Extends kind c

theorem extends_iff {kind : TokenKind} {c : Char} :
    Extends kind c ↔ kind.continuesWith c = true := by
  constructor
  · intro longer
    cases longer <;> assumption
  · intro continued
    cases kind with
    | number => exact .number continued
    | identifier => exact .identifier continued
    | operator => exact .operator continued
    | special | other | endOfInput => contradiction

theorem Stops.continuesWith {kind : TokenKind} {after : List Char} (stops : Stops kind after)
    {c : Char} (next : after.head? = some c) : kind.continuesWith c = false :=
  Bool.eq_false_iff.mpr fun continued => stops c next (extends_iff.mpr continued)

theorem stops_nil (kind : TokenKind) : Stops kind [] := by
  intro c next
  simp at next

theorem takeWhile_run {kind : TokenKind} {word after : List Char}
    (later : ∀ d ∈ word, kind.continuesWith d = true) (stops : Stops kind after) :
    (word ++ after).takeWhile kind.continuesWith = word ∧
      (word ++ after).dropWhile kind.continuesWith = after := by
  rw [List.takeWhile_append_of_pos later, List.dropWhile_append_of_pos later]
  cases after with
  | nil => simp
  | cons c after => simp [stops.continuesWith (c := c) rfl]

theorem stops_dropWhile (kind : TokenKind) (text : List Char) :
    Stops kind (text.dropWhile kind.continuesWith) := by
  intro c next longer
  have stopped := List.head?_dropWhile_not kind.continuesWith text
  rw [next] at stopped
  simp [extends_iff.mp longer] at stopped

theorem eq_nil_of_never {kind : TokenKind} {rest : List Char}
    (never : ∀ d, kind.continuesWith d = false) (later : ∀ d ∈ rest, kind.continuesWith d = true) :
    rest = [] := by
  apply List.eq_nil_iff_forall_not_mem.mpr
  intro d member
  have continued := later d member
  simp [never d] at continued

/-- The first character of a lexeme settles its kind. -/
theorem started_of_lexeme {kind : TokenKind} {c : Char} {rest : List Char}
    (lexeme : Lexeme kind (c :: rest)) :
    CharClass.of c ≠ .whiteSpace ∧ kind = TokenKind.startedBy (CharClass.of c) ∧
      ∀ d ∈ rest, kind.continuesWith d = true := by
  cases lexeme with
  | special inside =>
      have found : CharClass.of c = .special := CharClass.of_eq_iff.mpr inside
      simp [found, TokenKind.startedBy]
  | number nonempty digits =>
      have found : CharClass.of c = .digit := CharClass.of_eq_iff.mpr (digits c List.mem_cons_self)
      exact ⟨by simp [found], by rw [found]; rfl,
        fun d member => digits d (List.mem_cons_of_mem c member)⟩
  | identifier first later =>
      have found : CharClass.of c = .identifierStart := CharClass.of_eq_iff.mpr first
      exact ⟨by simp [found], by rw [found]; rfl, later⟩
  | operator nonempty symbols =>
      have found : CharClass.of c = .operator :=
        CharClass.of_eq_iff.mpr (symbols c List.mem_cons_self)
      exact ⟨by simp [found], by rw [found]; rfl,
        fun d member => symbols d (List.mem_cons_of_mem c member)⟩
  | other left => simp [left, TokenKind.startedBy]

theorem lexeme_of_started {c : Char} {rest : List Char} (visible : CharClass.of c ≠ .whiteSpace)
    (later : ∀ d ∈ rest, (TokenKind.startedBy (CharClass.of c)).continuesWith d = true) :
    Lexeme (TokenKind.startedBy (CharClass.of c)) (c :: rest) := by
  have inside := CharClass.contains_of c
  cases found : CharClass.of c with
  | whiteSpace => contradiction
  | special =>
      rw [found] at inside later
      rw [eq_nil_of_never (fun _ => rfl) later]
      exact .special inside
  | digit =>
      rw [found] at inside later
      exact .number (List.cons_ne_nil c rest) (List.forall_mem_cons.mpr ⟨inside, later⟩)
  | identifierStart =>
      rw [found] at inside later
      exact .identifier inside later
  | operator =>
      rw [found] at inside later
      exact .operator (List.cons_ne_nil c rest) (List.forall_mem_cons.mpr ⟨inside, later⟩)
  | other =>
      rw [found] at later
      rw [eq_nil_of_never (fun _ => rfl) later]
      exact .other found

namespace Lexeme

variable {kind kind' : TokenKind} {word word' after after' : List Char}

theorem ne_nil (lexeme : Lexeme kind word) : word ≠ [] := by
  cases lexeme <;> first | assumption | exact List.cons_ne_nil _ _

theorem ne_endOfInput (lexeme : Lexeme kind word) : kind ≠ .endOfInput := by
  cases lexeme <;> decide

theorem not_whiteSpace (lexeme : Lexeme kind word) {c : Char} (member : c ∈ word) :
    isWhiteSpace c = false := by
  cases lexeme with
  | special inside =>
      rw [List.mem_singleton.mp member]
      exact (apart_of_isSpecial inside).1
  | number nonempty digits => exact isWhiteSpace_of_isDecimalDigit (digits c member)
  | identifier first later =>
      rcases List.mem_cons.mp member with rfl | behind
      · exact isWhiteSpace_of_isIdentifierStart first
      · have letter := later c behind
        simp only [isIdentifierContinue, Bool.or_eq_true] at letter
        rcases letter with start | digit
        · exact isWhiteSpace_of_isIdentifierStart start
        · exact isWhiteSpace_of_isDecimalDigit digit
  | operator nonempty symbols => exact (apart_of_isOperator (symbols c member)).1
  | other left =>
      rw [List.mem_singleton.mp member]
      have outside := CharClass.of_eq_iff.mp left
      simp only [CharClass.contains, Bool.not_eq_true', Bool.or_eq_false_iff] at outside
      exact outside.1.1.1.1

theorem not_mem (lexeme : Lexeme kind word) {c : Char} (blank : isWhiteSpace c = true) :
    c ∉ word := by
  intro member
  simp [lexeme.not_whiteSpace member] at blank

theorem newline_not_mem (lexeme : Lexeme kind word) : '\n' ∉ word :=
  lexeme.not_mem isWhiteSpace_newline

theorem append (lexeme : Lexeme kind word) {more : List Char}
    (goesOn : ∀ d ∈ more, kind.continuesWith d = true) : Lexeme kind (word ++ more) := by
  obtain ⟨c, rest, rfl⟩ := List.exists_cons_of_ne_nil lexeme.ne_nil
  obtain ⟨visible, rfl, later⟩ := started_of_lexeme lexeme
  exact lexeme_of_started visible (List.forall_mem_append.mpr ⟨later, goesOn⟩)

theorem stops_blank (lexeme : Lexeme kind word) {c : Char} (blank : isWhiteSpace c = true)
    (after : List Char) : Stops kind (c :: after) := by
  intro d next longer
  obtain rfl : c = d := by simpa using next
  have goesOn : ∀ d ∈ [c], kind.continuesWith d = true := by
    simpa using extends_iff.mp longer
  have visible := (lexeme.append goesOn).not_whiteSpace (c := c) (by simp)
  simp [blank] at visible

/-- Two lexemes at the same place that both end where they must are the same. -/
theorem unique (lexeme : Lexeme kind word) (stops : Stops kind after)
    (lexeme' : Lexeme kind' word') (stops' : Stops kind' after')
    (same : word ++ after = word' ++ after') :
    kind = kind' ∧ word = word' ∧ after = after' := by
  obtain ⟨c, rest, rfl⟩ := List.exists_cons_of_ne_nil lexeme.ne_nil
  obtain ⟨c', rest', rfl⟩ := List.exists_cons_of_ne_nil lexeme'.ne_nil
  simp only [List.cons_append, List.cons.injEq] at same
  obtain ⟨rfl, sameRest⟩ := same
  obtain ⟨_, started, later⟩ := started_of_lexeme lexeme
  obtain ⟨_, started', later'⟩ := started_of_lexeme lexeme'
  obtain rfl : kind = kind' := started.trans started'.symm
  have run := takeWhile_run later stops
  have run' := takeWhile_run later' stops'
  rw [sameRest] at run
  exact ⟨rfl, congrArg (c :: ·) (run.1.symm.trans run'.1), run.2.symm.trans run'.2⟩

end Lexeme

end TokenStream
