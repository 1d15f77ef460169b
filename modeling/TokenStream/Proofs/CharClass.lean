import TokenStream.CharClass

namespace TokenStream

open TokenStream.Text

namespace Text

/-- Whether no range of the first table meets one of the second.  Both tables are passed once: what
ends before a range of the first table is left behind for good. -/
def apart : List (Nat × Nat) → List (Nat × Nat) → Bool
  | [], _ => true
  | (first, last) :: rest, others =>
      let ahead := others.dropWhile fun other => other.2 < first
      ahead.head?.all (fun other => last < other.1) && apart rest ahead

theorem covers_dropWhile {ranges : List (Nat × Nat)} {first code : Nat} (lower : first ≤ code)
    (found : covers ranges code = true) :
    covers (ranges.dropWhile fun range => range.2 < first) code = true := by
  induction ranges with
  | nil => simp at found
  | cons range rest ih =>
      by_cases before : range.2 < first
      · rw [List.dropWhile_cons_of_pos (by simpa using before)]
        simp only [covers, Bool.and_eq_true, Bool.or_eq_true, decide_eq_true_eq] at found
        rcases found.2 with within | later
        · omega
        · exact ih later
      · rw [List.dropWhile_cons_of_neg (by simpa using before)]
        exact found

theorem not_covers_of_apart {ranges others : List (Nat × Nat)} {code : Nat}
    (tables : apart ranges others = true) (found : covers ranges code = true) :
    covers others code = false := by
  induction ranges generalizing others with
  | nil => simp at found
  | cons range rest ih =>
      obtain ⟨first, last⟩ := range
      simp only [apart, Bool.and_eq_true] at tables
      simp only [covers, Bool.and_eq_true, Bool.or_eq_true, decide_eq_true_eq] at found
      apply Bool.eq_false_iff.mpr
      intro also
      have ahead := covers_dropWhile found.1 also
      rcases found.2 with within | later
      · -- The code point lies in the first range, and the tables' lookup stops at what starts above.
        cases left : others.dropWhile fun other => other.2 < first with
        | nil => simp [left] at ahead
        | cons other behind =>
            simp only [left, List.head?_cons, Option.all_some, decide_eq_true_eq] at tables
            simp only [left, covers, Bool.and_eq_true, decide_eq_true_eq] at ahead
            omega
      · rw [ih tables.2 later] at ahead
        contradiction

def digitRanges : List (Nat × Nat) :=
  digitZeros.map fun start => (start, start + 9)

theorem inSets_eq_covers (c : Char) (starts : List Nat) :
    isDecimalDigit.inSets c starts = covers (starts.map fun start => (start, start + 9)) c.toNat := by
  induction starts with
  | nil => rfl
  | cons start starts ih =>
      have last : decide (c.toNat < start + 10) = decide (c.toNat ≤ start + 9) :=
        decide_eq_decide.mpr (by omega)
      simp only [isDecimalDigit.inSets, List.map_cons, covers, ih, last]

theorem isDecimalDigit_eq_covers (c : Char) :
    isDecimalDigit c = covers digitRanges c.toNat :=
  inSets_eq_covers c digitZeros

theorem isWhiteSpace_of_isDecimalDigit {c : Char} (digit : isDecimalDigit c = true) :
    isWhiteSpace c = false := by
  have tables : apart digitRanges whiteSpaceRanges = true := by decide +kernel
  rw [isDecimalDigit_eq_covers] at digit
  exact not_covers_of_apart tables digit

theorem isWhiteSpace_of_isLetter {c : Char} (letter : isLetter c = true) :
    isWhiteSpace c = false := by
  have tables : apart letterRanges whiteSpaceRanges = true := by decide +kernel
  exact not_covers_of_apart tables letter

theorem isDecimalDigit_of_isLetter {c : Char} (letter : isLetter c = true) :
    isDecimalDigit c = false := by
  have tables : apart letterRanges digitRanges = true := by decide +kernel
  rw [isDecimalDigit_eq_covers]
  exact not_covers_of_apart tables letter

end Text

theorem isWhiteSpace_of_isIdentifierStart {c : Char} (start : isIdentifierStart c = true) :
    isWhiteSpace c = false := by
  simp only [isIdentifierStart, Bool.or_eq_true, beq_iff_eq] at start
  rcases start with letter | rfl
  · exact isWhiteSpace_of_isLetter letter
  · rfl

theorem isDecimalDigit_of_isIdentifierStart {c : Char} (start : isIdentifierStart c = true) :
    isDecimalDigit c = false := by
  simp only [isIdentifierStart, Bool.or_eq_true, beq_iff_eq] at start
  rcases start with letter | rfl
  · exact isDecimalDigit_of_isLetter letter
  · rfl

theorem apart_of_isSpecial {c : Char} (special : isSpecial c = true) :
    isWhiteSpace c = false ∧ isDecimalDigit c = false ∧ isIdentifierStart c = false ∧
      isOperator c = false := by
  have all : ['(', ')', '{', '}', '[', ']', ';', ','].all (fun symbol =>
      !isWhiteSpace symbol && !isDecimalDigit symbol && !isIdentifierStart symbol &&
        !isOperator symbol) = true := by decide
  simpa [and_assoc] using List.all_eq_true.mp all c (List.contains_iff_mem.mp special)

theorem apart_of_isOperator {c : Char} (operator : isOperator c = true) :
    isWhiteSpace c = false ∧ isSpecial c = false ∧ isDecimalDigit c = false ∧
      isIdentifierStart c = false := by
  have all : ['+', '-', '*', '/', '=', '<', '>', '!', '&', '|', '^'].all (fun symbol =>
      !isWhiteSpace symbol && !isSpecial symbol && !isDecimalDigit symbol &&
        !isIdentifierStart symbol) = true := by decide
  simpa [and_assoc] using List.all_eq_true.mp all c (List.contains_iff_mem.mp operator)

namespace CharClass

/-- The set that a class is named for; `other` is what the five named sets leave. -/
def contains : CharClass → Char → Bool
  | .whiteSpace => isWhiteSpace
  | .special => isSpecial
  | .digit => isDecimalDigit
  | .identifierStart => isIdentifierStart
  | .operator => isOperator
  | .other => fun c =>
      !(isWhiteSpace c || isSpecial c || isDecimalDigit c || isIdentifierStart c || isOperator c)

theorem contains_of (c : Char) : (CharClass.of c).contains c = true := by
  by_cases blank : isWhiteSpace c = true
  · simp [CharClass.of, contains, blank]
  by_cases special : isSpecial c = true
  · simp [CharClass.of, contains, blank, special]
  by_cases digit : isDecimalDigit c = true
  · simp [CharClass.of, contains, blank, special, digit]
  by_cases start : isIdentifierStart c = true
  · simp [CharClass.of, contains, blank, special, digit, start]
  by_cases operator : isOperator c = true
  · simp [CharClass.of, contains, blank, special, digit, start, operator]
  simp [CharClass.of, contains, blank, special, digit, start, operator]

/-- The sets share no character, so a character's class is the only one whose set contains it. -/
theorem of_eq_iff {c : Char} {expected : CharClass} :
    CharClass.of c = expected ↔ expected.contains c = true := by
  constructor
  · rintro rfl
    exact contains_of c
  intro inside
  cases expected with
  | whiteSpace =>
      have blank : isWhiteSpace c = true := inside
      simp [CharClass.of, blank]
  | special =>
      have special : isSpecial c = true := inside
      simp [CharClass.of, (apart_of_isSpecial special).1, special]
  | digit =>
      have digit : isDecimalDigit c = true := inside
      have special : isSpecial c ≠ true := by
        intro special
        simp [(apart_of_isSpecial special).2.1] at digit
      simp [CharClass.of, isWhiteSpace_of_isDecimalDigit digit, special, digit]
  | identifierStart =>
      have start : isIdentifierStart c = true := inside
      have special : isSpecial c ≠ true := by
        intro special
        simp [(apart_of_isSpecial special).2.2.1] at start
      simp [CharClass.of, isWhiteSpace_of_isIdentifierStart start, special,
        isDecimalDigit_of_isIdentifierStart start, start]
  | operator =>
      have operator : isOperator c = true := inside
      obtain ⟨blank, special, digit, start⟩ := apart_of_isOperator operator
      simp [CharClass.of, blank, special, digit, start, operator]
  | other =>
      simp only [contains, Bool.not_eq_true', Bool.or_eq_false_iff] at inside
      obtain ⟨⟨⟨⟨blank, special⟩, digit⟩, start⟩, operator⟩ := inside
      simp [CharClass.of, blank, special, digit, start, operator]

end CharClass

end TokenStream
