import Mathlib.Data.List.TakeWhile
import TokenStream.Json.Record
import TokenStream.Proofs.Json.Form
import TokenStream.Proofs.Json.Unambiguity

namespace TokenStream.Json

open Grammar (afterBlanks)

namespace Reader

def Takes (reader : Reader α) (text : List Char) (value : α) (rest : List Char) : Prop :=
  reader text = .ok (value, rest)

variable {α β : Type} {text rest : List Char} {value : α}

@[simp]
theorem takes_pure {made : α} :
    Takes (pure made) text value rest ↔ made = value ∧ text = rest := by
  change (Except.ok (made, text) : Except Failure (α × List Char)) = .ok (value, rest) ↔ _
  simp

theorem takes_bind {first : Reader β} {second : β → Reader α} :
    Takes (first >>= second) text value rest ↔
      ∃ middle behind, first.Takes text middle behind ∧
        (second middle).Takes behind value rest := by
  simp only [Takes, bind, StateT.bind, Except.bind]
  cases first text with
  | error failure => simp
  | ok pair =>
      obtain ⟨middle, behind⟩ := pair
      simp

theorem takes_unit_bind {first : Reader Unit} {second : Unit → Reader α} :
    Takes (first >>= second) text value rest ↔
      ∃ behind, first.Takes text () behind ∧ (second ()).Takes behind value rest := by
  rw [takes_bind]
  constructor
  · rintro ⟨_, taken⟩
    exact taken
  · intro taken
    exact ⟨(), taken⟩

@[simp]
theorem takes_map {reader : Reader β} {change : β → α} :
    Takes (change <$> reader) text value rest ↔
      ∃ taken, reader.Takes text taken rest ∧ change taken = value := by
  simp [← bind_pure_comp, takes_bind]

@[simp]
theorem not_takes_fail {cause : Cause} : ¬ Takes (fail cause) text value rest := by
  simp [Takes, fail]

@[simp]
theorem not_takes_failAtNext {cause : Cause} :
    ¬ Takes (failAtNext cause) text value rest := by
  simp [Takes, failAtNext]

@[simp]
theorem takes_peek_bind {second : Option Char → Reader α} :
    Takes (peek >>= second) text value rest ↔ (second text.head?).Takes text value rest :=
  Iff.rfl

@[simp]
theorem takes_drop {nothing : Unit} : Takes drop text nothing rest ↔ text.tail = rest := by
  simp [Takes, drop]

@[simp]
theorem takes_drop_bind {second : Unit → Reader α} :
    Takes (drop >>= second) text value rest ↔ (second ()).Takes text.tail value rest :=
  Iff.rfl

@[simp]
theorem takes_peekToken_bind {second : Option Char → Reader α} :
    Takes (peekToken >>= second) text value rest ↔
      (second (afterBlanks text).head?).Takes (afterBlanks text) value rest :=
  Iff.rfl

@[simp]
theorem takes_word {letters : List Char} {nothing : Unit} :
    Takes (word letters) text nothing rest ↔ text = letters ++ rest := by
  induction letters generalizing text with
  | nil => simp [word]
  | cons wanted letters ih =>
      rw [word, takes_peek_bind]
      cases text with
      | nil => simp
      | cons c text =>
          simp only [List.head?_cons]
          split
          · rename_i same
            simp [ih, same]
          · rename_i different
            simp [different]

@[simp]
theorem takes_word_bind {letters : List Char} {second : Unit → Reader α} :
    Takes (word letters >>= second) text value rest ↔
      ∃ behind, text = letters ++ behind ∧ (second ()).Takes behind value rest := by
  simp only [takes_unit_bind, takes_word]

@[simp]
theorem takes_colon {nothing : Unit} :
    Takes colon text nothing rest ↔ afterBlanks text = ':' :: rest := by
  rw [colon, takes_peekToken_bind]
  cases afterBlanks text with
  | nil => simp
  | cons c text =>
      by_cases mark : c = ':'
      · simp [mark]
      · simp [mark]

@[simp]
theorem takes_colon_bind {second : Unit → Reader α} :
    Takes (colon >>= second) text value rest ↔
      ∃ behind, afterBlanks text = ':' :: behind ∧ (second ()).Takes behind value rest := by
  simp only [takes_unit_bind, takes_colon]

theorem digits_takeWhile {c : Char} (digit : isDigit c = true) :
    Grammar.Digits (c :: text) ((c :: text).takeWhile isDigit) ((c :: text).dropWhile isDigit) where
  split := List.takeWhile_append_dropWhile.symm
  nonempty := by simp [digit]
  digit _ member := List.mem_takeWhile_imp member
  stops next here := by
    have stopped := List.head?_dropWhile_not isDigit (c :: text)
    rw [Option.mem_def.mp here] at stopped
    simpa using stopped

theorem takes_digits {taken : List Char} :
    Takes digits text taken rest ↔
      text.takeWhile isDigit = taken ∧ text.dropWhile isDigit = rest := by
  simp [Takes, digits]

@[simp]
theorem takes_someDigits {atEnd : Cause} {taken : List Char} :
    Takes (someDigits atEnd) text taken rest ↔ Grammar.Digits text taken rest := by
  rw [someDigits, takes_peek_bind]
  cases text with
  | nil =>
      refine iff_of_false (by simp) fun taken => ?_
      obtain ⟨_, _, same, _⟩ := taken.head
      cases same
  | cons c text =>
      cases digit : isDigit c with
      | false => exact iff_of_false (by simp [digit]) (Grammar.not_digits digit)
      | true =>
          simp only [List.head?_cons, digit, ↓reduceIte, takes_digits]
          constructor
          · rintro ⟨rfl, rfl⟩
            exact digits_takeWhile digit
          · intro taken
            obtain ⟨same, same'⟩ := taken.eq_takeWhile
            exact ⟨same.symm, same'.symm⟩

theorem whole_zero_iff {taken : List Char} :
    Grammar.Whole ('0' :: text) taken rest ↔
      ['0'] = taken ∧ text = rest ∧ ∀ c ∈ text.head?, isDigit c = false := by
  constructor
  · rintro ⟨⟨split, nonempty, digit, stops⟩, leading⟩
    obtain ⟨c, taken, rfl⟩ := List.exists_cons_of_ne_nil nonempty
    obtain ⟨rfl, rfl⟩ : '0' = c ∧ text = taken ++ rest := by simpa using split
    obtain rfl : taken = [] := by simpa using leading rfl
    exact ⟨rfl, rfl, stops⟩
  · rintro ⟨rfl, rfl, stops⟩
    exact ⟨⟨rfl, by simp, by simp [isDigit], stops⟩, fun _ => rfl⟩

theorem whole_iff_digits {taken : List Char} (noZero : text.head? ≠ some '0') :
    Grammar.Whole text taken rest ↔ Grammar.Digits text taken rest := by
  refine ⟨Grammar.Whole.toDigits, fun digits => ⟨digits, fun leading => ?_⟩⟩
  rw [digits.split, List.head?_append, leading] at noZero
  exact absurd rfl noZero

@[simp]
theorem takes_wholeDigits {atEnd : Cause} {taken : List Char} :
    Takes (wholeDigits atEnd) text taken rest ↔ Grammar.Whole text taken rest := by
  rw [wholeDigits, takes_peek_bind]
  by_cases zero : text.head? = some '0'
  · obtain ⟨text, rfl⟩ := List.head?_eq_some_iff.mp zero
    rw [whole_zero_iff]
    cases text with
    | nil => simp
    | cons c text => cases digit : isDigit c <;> simp [digit]
  · rw [whole_iff_digits zero]
    split
    · exact absurd ‹text.head? = some '0'› zero
    · exact takes_someDigits

@[simp]
theorem takes_fractionDigits {atEnd : Cause} {taken : List Char} :
    Takes (fractionDigits atEnd) text taken rest ↔ Grammar.Fraction text taken rest := by
  rw [fractionDigits, takes_peek_bind]
  by_cases point : text.head? = some '.'
  · obtain ⟨text, rfl⟩ := List.head?_eq_some_iff.mp point
    simp only [List.head?_cons, takes_drop_bind, List.tail_cons, takes_someDigits]
    constructor
    · exact .present
    · intro fraction
      cases fraction with
      | absent noPoint => exact absurd point noPoint
      | present digits => exact digits
  · split
    · exact absurd ‹text.head? = some '.'› point
    · simp only [takes_pure]
      constructor
      · rintro ⟨rfl, rfl⟩
        exact .absent point
      · intro fraction
        cases fraction with
        | absent => exact ⟨rfl, rfl⟩
        | present => exact absurd rfl point

theorem takes_sign {negative : Bool} :
    Takes sign text negative rest ↔
      text = '+' :: rest ∧ false = negative ∨ text = '-' :: rest ∧ true = negative ∨
        text.head? ≠ some '+' ∧ text.head? ≠ some '-' ∧ false = negative ∧ text = rest := by
  rw [sign, takes_peek_bind]
  cases text with
  | nil => simp
  | cons c text =>
      by_cases plus : c = '+'
      · simp [plus]
      · by_cases minus : c = '-'
        · simp [minus]
        · simp [plus, minus]

/-- Behind the mark of a power of ten come a sign and digits, or only digits. -/
theorem exists_power_iff {c : Char} (mark : c = 'e' ∨ c = 'E') :
    (∃ power, Grammar.Power (c :: text) power rest) ↔
      ∃ negative behind digits, sign.Takes text negative behind ∧
        Grammar.Digits behind digits rest := by
  simp only [takes_sign]
  constructor
  · rintro ⟨power, isPower⟩
    cases isPower with
    | absent noMark => exact absurd mark (not_or.mpr (noMark c rfl))
    | unsigned _ digits =>
        obtain ⟨first, later, rfl, digit⟩ := digits.head
        have noSign (sign : Char) (other : isDigit sign = false) : first ≠ sign := by
          rintro rfl
          rw [digit] at other
          cases other
        refine ⟨_, _, _, .inr (.inr ⟨?_, ?_, rfl, rfl⟩), digits⟩
        · simpa using noSign '+' rfl
        · simpa using noSign '-' rfl
    | plus _ digits => exact ⟨_, _, _, .inl ⟨rfl, rfl⟩, digits⟩
    | minus _ digits => exact ⟨_, _, _, .inr (.inl ⟨rfl, rfl⟩), digits⟩
  · rintro ⟨negative, behind, digits, ⟨rfl, _⟩ | ⟨rfl, _⟩ | ⟨_, _, _, rfl⟩, isDigits⟩
    · exact ⟨_, .plus mark isDigits⟩
    · exact ⟨_, .minus mark isDigits⟩
    · exact ⟨_, .unsigned mark isDigits⟩

theorem takes_powerDigits_marked {atEnd : Cause} {c : Char} (mark : c = 'e' ∨ c = 'E') :
    (∃ power, Takes (powerDigits atEnd) (c :: text) power rest) ↔
      ∃ negative behind digits, sign.Takes text negative behind ∧
        Grammar.Digits behind digits rest := by
  have reads (power) : Takes (powerDigits atEnd) (c :: text) power rest ↔
      Takes (do
        let negative ← sign
        return some (negative, ← someDigits atEnd)) text power rest := by
    obtain rfl | rfl := mark <;> exact Iff.rfl
  simp only [reads, takes_bind, takes_pure, takes_someDigits]
  constructor
  · rintro ⟨_, negative, behind, signed, digits, _, taken, _, rfl⟩
    exact ⟨negative, behind, digits, signed, taken⟩
  · rintro ⟨negative, behind, digits, signed, taken⟩
    exact ⟨_, negative, behind, signed, digits, _, taken, rfl, rfl⟩

theorem takes_powerDigits_unmarked {atEnd : Cause} {power : Option (Bool × List Char)}
    (noMark : ∀ c ∈ text.head?, c ≠ 'e' ∧ c ≠ 'E') :
    Takes (powerDigits atEnd) text power rest ↔ none = power ∧ text = rest := by
  rw [powerDigits, takes_peek_bind]
  split
  · exact absurd rfl (noMark 'e' ‹_›).1
  · exact absurd rfl (noMark 'E' ‹_›).2
  · exact takes_pure

theorem takes_powerDigits {atEnd : Cause} :
    (∃ power, Takes (powerDigits atEnd) text power rest) ↔
      ∃ power, Grammar.Power text power rest := by
  by_cases noMark : ∀ c ∈ text.head?, c ≠ 'e' ∧ c ≠ 'E'
  · simp only [takes_powerDigits_unmarked noMark]
    constructor
    · rintro ⟨_, _, rfl⟩
      exact ⟨0, .absent noMark⟩
    · rintro ⟨_, isPower⟩
      cases isPower with
      | absent => exact ⟨none, rfl, rfl⟩
      | unsigned mark | plus mark | minus mark =>
          exact absurd mark (not_or.mpr (noMark _ rfl))
  · obtain ⟨c, here, mark⟩ : ∃ c ∈ text.head?, c = 'e' ∨ c = 'E' := by
      simpa only [not_forall, not_and_or, ne_eq, not_not, exists_prop] using noMark
    obtain ⟨text, rfl⟩ := List.head?_eq_some_iff.mp here
    rw [takes_powerDigits_marked mark, exists_power_iff mark]

/-- The reader takes what the grammar has as a number without a sign. -/
theorem takes_numeral {atEnd : Cause} :
    (∃ taken, Takes (Reader.numeral atEnd) text taken rest) ↔
      ∃ value, Grammar.Unsigned text value rest := by
  simp only [Reader.numeral, takes_bind, takes_pure, takes_wholeDigits, takes_fractionDigits]
  constructor
  · rintro ⟨taken, whole, behindWhole, isWhole, fraction, behindFraction, isFraction, power, _,
      isPower, rfl, rfl⟩
    obtain ⟨power, isPower⟩ := takes_powerDigits.mp ⟨power, isPower⟩
    exact ⟨_, .mk isWhole isFraction isPower⟩
  · rintro ⟨_, isWhole, isFraction, isPower⟩
    obtain ⟨power, isPower⟩ := takes_powerDigits.mpr ⟨_, isPower⟩
    exact ⟨_, _, _, isWhole, _, _, isFraction, power, _, isPower, rfl, rfl⟩

end Reader

variable {text rest word : List Char} {character : Char}

theorem codeUnit_eq_ok_iff {code : Nat} :
    codeUnit text = .ok (code, rest) ↔
      ∃ a b c d, text = a :: b :: c :: d :: rest ∧ fourHex a b c d = some code := by
  constructor
  · intro read
    unfold codeUnit at read
    split at read
    · rename_i a b c d later
      cases digits : fourHex a b c d with
      | none =>
          rw [digits] at read
          cases read
      | some code =>
          rw [digits] at read
          cases read
          exact ⟨a, b, c, d, rfl, digits⟩
    · split at read <;> cases read
  · rintro ⟨a, b, c, d, rfl, digits⟩
    simp only [codeUnit, digits]

theorem secondHalf_eq_ok_iff {high : Nat} :
    secondHalf high text = .ok (character, rest) ↔
      ∃ a b c d low, text = '\\' :: 'u' :: a :: b :: c :: d :: rest ∧
        fourHex a b c d = some low ∧ isLowSurrogate low = true ∧
        Char.ofNat (0x10000 + (high - 0xD800) * 0x400 + (low - 0xDC00)) = character := by
  constructor
  · intro read
    unfold secondHalf at read
    split at read
    · cases read
    · cases read
    · rename_i digits
      cases found : codeUnit digits with
      | error failure => simp [found, bind, Except.bind] at read
      | ok pair =>
          obtain ⟨low, behind⟩ := pair
          obtain ⟨a, b, c, d, rfl, isLow'⟩ := codeUnit_eq_ok_iff.mp found
          cases isLow : isLowSurrogate low with
          | false => simp [found, bind, Except.bind, isLow, failAt] at read
          | true =>
              simp [found, bind, Except.bind, isLow, pure, Except.pure] at read
              obtain ⟨rfl, rfl⟩ := read
              exact ⟨a, b, c, d, low, rfl, isLow', isLow, rfl⟩
    · cases read
    · cases read
  · rintro ⟨a, b, c, d, low, rfl, digits, isLow, rfl⟩
    have found : codeUnit (a :: b :: c :: d :: rest) = .ok (low, rest) :=
      codeUnit_eq_ok_iff.mpr ⟨a, b, c, d, rfl, digits⟩
    simp [secondHalf, found, bind, Except.bind, isLow, pure, Except.pure]

theorem escape_mark {mark : Char} (known : plainEscape mark = some character) :
    escape (mark :: text) = .ok (character, text) := by
  unfold escape
  split
  · cases ‹mark :: text = []›
  · rename_i same
    cases same
    cases known
  · rename_i same
    cases same
    rw [known]

theorem escape_unit {code : Nat} (found : codeUnit text = .ok (code, rest)) :
    escape ('u' :: text) =
      if isLowSurrogate code then failAt .loneSurrogate rest 0
      else if isHighSurrogate code then secondHalf code rest
      else .ok (Char.ofNat code, rest) := by
  simp only [escape, found, bind, Except.bind]
  rfl

theorem not_isLowSurrogate_of_high {code : Nat} (isHigh : isHighSurrogate code = true) :
    isLowSurrogate code = false := by
  simp only [isHighSurrogate, isLowSurrogate, Bool.and_eq_true, decide_eq_true_eq,
    Bool.and_eq_false_iff, decide_eq_false_iff_not] at isHigh ⊢
  omega

/-- Behind a backslash, the grammar and the reader have the same escapes. -/
theorem characters_backslash_iff :
    Grammar.Characters ('\\' :: text) word rest ↔
      ∃ c behind later, escape text = .ok (c, behind) ∧ word = c :: later ∧
        Grammar.Characters behind later rest := by
  constructor
  · intro characters
    cases characters with
    | plain _ _ noBackslash => exact absurd rfl noBackslash
    | escape known later => exact ⟨_, _, _, escape_mark known, rfl, later⟩
    | unit digits notHigh notLow later =>
        refine ⟨_, _, _, ?_, rfl, later⟩
        rw [escape_unit (codeUnit_eq_ok_iff.mpr ⟨_, _, _, _, rfl, digits⟩), notHigh, notLow]
        rfl
    | pair digits isHigh digits' isLow later =>
        refine ⟨_, _, _, ?_, rfl, later⟩
        rw [escape_unit (codeUnit_eq_ok_iff.mpr ⟨_, _, _, _, rfl, digits⟩), isHigh,
          not_isLowSurrogate_of_high isHigh]
        exact secondHalf_eq_ok_iff.mpr ⟨_, _, _, _, _, rfl, digits', isLow, rfl⟩
  · rintro ⟨character, behind, later, read, rfl, characters⟩
    cases text with
    | nil => cases read
    | cons mark text =>
        cases known : plainEscape mark with
        | some c =>
            rw [escape_mark known] at read
            cases read
            exact .escape known characters
        | none =>
            by_cases isUnit : mark = 'u'
            · cases isUnit
              cases found : codeUnit text with
              | error failure => simp [escape, found, bind, Except.bind] at read
              | ok pair =>
                  obtain ⟨code, middle⟩ := pair
                  obtain ⟨a, b, c, d, rfl, digits⟩ := codeUnit_eq_ok_iff.mp found
                  rw [escape_unit found] at read
                  cases isLow : isLowSurrogate code with
                  | true => simp [isLow, failAt] at read
                  | false =>
                  cases isHigh : isHighSurrogate code with
                  | false =>
                      simp only [isLow, isHigh, Bool.false_eq_true, ↓reduceIte] at read
                      cases read
                      exact .unit digits isHigh isLow characters
                  | true =>
                      simp only [isLow, isHigh, Bool.false_eq_true, ↓reduceIte] at read
                      obtain ⟨a', b', c', d', low, rfl, digits', isLow', rfl⟩ :=
                        secondHalf_eq_ok_iff.mp read
                      exact .pair digits isHigh digits' isLow' characters
            · simp [escape, known, failAt] at read

theorem characters_plain_iff (noMark : character ≠ '"') (noBackslash : character ≠ '\\') :
    Grammar.Characters (character :: text) word rest ↔
      ' ' ≤ character ∧ ∃ later, word = character :: later ∧
        Grammar.Characters text later rest := by
  constructor
  · intro characters
    cases characters with
    | close => exact absurd rfl noMark
    | plain visible _ _ later => exact ⟨visible, _, rfl, later⟩
    | escape | unit | pair => exact absurd rfl noBackslash
  · rintro ⟨visible, later, rfl, characters⟩
    exact .plain visible noMark noBackslash characters

/-- What a string that is kept stands for. -/
theorem quotation_eq_ok_iff {spelt : List Char} :
    quotation spelt text = .ok (word, rest) ↔
      ∃ later, spelt.reverse ++ later = word ∧ Grammar.Characters text later rest := by
  fun_induction quotation spelt text with
  | case1 =>
      refine iff_of_false (by simp [failAt]) ?_
      rintro ⟨_, _, characters⟩
      cases characters
  | case2 spelt behind =>
      simp only [Except.ok.injEq, Prod.mk.injEq]
      constructor
      · rintro ⟨rfl, rfl⟩
        exact ⟨[], List.append_nil _, .close⟩
      · rintro ⟨later, rfl, characters⟩
        cases characters with
        | close => simp
        | plain _ noMark => exact absurd rfl noMark
  | case3 spelt escaped c behind found ih =>
      simp [ih, characters_backslash_iff, found]
  | case4 spelt escaped failure found =>
      simp [characters_backslash_iff, found]
  | case5 spelt c behind noMark noBackslash control =>
      refine iff_of_false (by simp [failAt]) ?_
      rintro ⟨later, _, characters⟩
      obtain ⟨visible, _⟩ := (characters_plain_iff noMark noBackslash).mp characters
      exact absurd control (Char.not_lt.mpr visible)
  | case6 spelt c behind noMark noBackslash noControl ih =>
      have visible : ' ' ≤ c := Char.not_lt.mp noControl
      simp [ih, characters_plain_iff noMark noBackslash, visible]

theorem skipEscape_mark {mark : Char} (known : plainEscape mark = some character) :
    skipEscape (mark :: text) = .ok text := by
  unfold skipEscape
  split
  · cases ‹mark :: text = []›
  · rename_i same
    cases same
    cases known
  · rename_i same
    cases same
    rw [known]

theorem skipEscape_unit {code : Nat} (found : codeUnit text = .ok (code, rest)) :
    skipEscape ('u' :: text) = .ok rest := by
  simp only [skipEscape, found, bind, Except.bind]
  rfl

theorem pieces_backslash_iff :
    (∃ pieces, Spelt.Pieces ('\\' :: text) pieces rest) ↔
      ∃ behind, skipEscape text = .ok behind ∧ ∃ pieces, Spelt.Pieces behind pieces rest := by
  constructor
  · rintro ⟨_, pieces⟩
    cases pieces with
    | plain _ _ noBackslash => exact absurd rfl noBackslash
    | escape known later => exact ⟨_, skipEscape_mark known, _, later⟩
    | unit digits later =>
        exact ⟨_, skipEscape_unit (codeUnit_eq_ok_iff.mpr ⟨_, _, _, _, rfl, digits⟩), _, later⟩
  · rintro ⟨behind, read, pieces, later⟩
    cases text with
    | nil => cases read
    | cons mark text =>
        cases known : plainEscape mark with
        | some c =>
            rw [skipEscape_mark known] at read
            cases read
            exact ⟨_, .escape known later⟩
        | none =>
            by_cases isUnit : mark = 'u'
            · cases isUnit
              cases found : codeUnit text with
              | error failure => simp [skipEscape, found, bind, Except.bind] at read
              | ok pair =>
                  obtain ⟨code, behind⟩ := pair
                  obtain ⟨a, b, c, d, rfl, digits⟩ := codeUnit_eq_ok_iff.mp found
                  rw [skipEscape_unit found] at read
                  cases read
                  exact ⟨_, .unit digits later⟩
            · simp [skipEscape, known, failAt] at read

theorem pieces_plain_iff (noMark : character ≠ '"') (noBackslash : character ≠ '\\') :
    (∃ pieces, Spelt.Pieces (character :: text) pieces rest) ↔
      ' ' ≤ character ∧ ∃ pieces, Spelt.Pieces text pieces rest := by
  constructor
  · rintro ⟨_, pieces⟩
    cases pieces with
    | close => exact absurd rfl noMark
    | plain visible _ _ later => exact ⟨visible, _, later⟩
    | escape | unit => exact absurd rfl noBackslash
  · rintro ⟨visible, _, later⟩
    exact ⟨_, .plain visible noMark noBackslash later⟩

theorem skipQuotation_eq_ok_iff :
    skipQuotation text = .ok rest ↔ ∃ pieces, Spelt.Pieces text pieces rest := by
  fun_induction skipQuotation text with
  | case1 =>
      refine iff_of_false (by simp [failAt]) ?_
      rintro ⟨_, pieces⟩
      cases pieces
  | case2 behind =>
      constructor
      · rintro ⟨⟩
        exact ⟨[], .close⟩
      · rintro ⟨_, pieces⟩
        cases pieces with
        | close => rfl
        | plain _ noMark => exact absurd rfl noMark
  | case3 escaped behind found ih => simp [ih, pieces_backslash_iff, found]
  | case4 escaped failure found => simp [pieces_backslash_iff, found]
  | case5 c behind noMark noBackslash control =>
      refine iff_of_false (by simp [failAt]) ?_
      rw [pieces_plain_iff noMark noBackslash]
      rintro ⟨visible, _⟩
      exact absurd control (Char.not_lt.mpr visible)
  | case6 c behind noMark noBackslash noControl ih =>
      have visible : ' ' ≤ c := Char.not_lt.mp noControl
      simp [ih, pieces_plain_iff noMark noBackslash, visible]

namespace Reader

@[simp]
theorem takes_string : Takes string text word rest ↔ Grammar.Characters text word rest := by
  simp [Takes, string, quotation_eq_ok_iff]

@[simp]
theorem takes_string_bind {second : List Char → Reader α} {value : α} :
    Takes (string >>= second) text value rest ↔
      ∃ word behind, Grammar.Characters text word behind ∧
        (second word).Takes behind value rest := by
  simp [takes_bind]

@[simp]
theorem takes_skipString {nothing : Unit} :
    Takes skipString text nothing rest ↔ ∃ pieces, Spelt.Pieces text pieces rest := by
  rw [← skipQuotation_eq_ok_iff, Takes, skipString, ofSkip]
  cases skipQuotation text <;> simp

end Reader

end TokenStream.Json
