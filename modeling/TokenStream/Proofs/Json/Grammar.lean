import Mathlib.Algebra.Field.Rat
import TokenStream.Json.Numeral
import TokenStream.Json.Quotation

namespace TokenStream.Json

/-! The grammar of JSON texts, and what they stand for.

Each relation takes something from the front of a text: `Value text tree rest` says
that `text` starts with a value that stands for `tree` and goes on with `rest`.
Blanks and digits are taken as far as they go, which refuses no document because
neither a blank nor a digit can stand where the next part begins.
-/

/-- A JSON value, with strings as texts or in any other form.  Members of an object are kept in
order. -/
inductive Tree (Word : Type) where
  | null
  | boolean (value : Bool)
  | number (value : Rat)
  | string (word : Word)
  | array (items : List (Tree Word))
  | object (members : List (Word × Tree Word))

namespace Grammar

/-- The text behind the blanks at its front. -/
def afterBlanks (text : List Char) : List Char :=
  text.dropWhile Reader.isBlank

/-- At least one digit, and all that there are. -/
structure Digits (text digits rest : List Char) : Prop where
  split : text = digits ++ rest
  nonempty : digits ≠ []
  digit : ∀ c ∈ digits, isDigit c = true
  stops : ∀ c ∈ rest.head?, isDigit c = false

/-- The digits in front of the point, which start with zero only when they are just a zero. -/
structure Whole (text digits rest : List Char) : Prop extends Digits text digits rest where
  leading : digits.head? = some '0' → digits = ['0']

inductive Fraction : List Char → List Char → List Char → Prop
  | absent (noPoint : text.head? ≠ some '.') : Fraction text [] text
  | present (digits : Digits text fraction rest) : Fraction ('.' :: text) fraction rest

def natural (digits : List Char) : Nat :=
  Nat.ofDigitChars 10 digits 0

inductive Power : List Char → Int → List Char → Prop
  | absent (noMark : ∀ c ∈ text.head?, c ≠ 'e' ∧ c ≠ 'E') : Power text 0 text
  | unsigned (mark : c = 'e' ∨ c = 'E') (digits : Digits text power rest) :
      Power (c :: text) (natural power) rest
  | plus (mark : c = 'e' ∨ c = 'E') (digits : Digits text power rest) :
      Power (c :: '+' :: text) (natural power) rest
  | minus (mark : c = 'e' ∨ c = 'E') (digits : Digits text power rest) :
      Power (c :: '-' :: text) (-(natural power : Int)) rest

/-- The number that digits before and behind a point and a power of ten spell. -/
def decimal (whole fraction : List Char) (power : Int) : Rat :=
  natural (whole ++ fraction) * (10 : Rat) ^ (power - fraction.length)

inductive Unsigned : List Char → Rat → List Char → Prop
  | mk (whole : Whole text digits behindWhole) (part : Fraction behindWhole fraction behindFraction)
      (scale : Power behindFraction power rest) : Unsigned text (decimal digits fraction power) rest

inductive Number : List Char → Rat → List Char → Prop
  | positive (number : Unsigned text value rest) : Number text value rest
  | negative (number : Unsigned text value rest) : Number ('-' :: text) (-value) rest

/-- The characters of a string and its closing mark.  An escape for a surrogate has to come with the
escape for the other half of the character. -/
inductive Characters : List Char → List Char → List Char → Prop
  | close : Characters ('"' :: rest) [] rest
  | plain (visible : ' ' ≤ c) (noMark : c ≠ '"') (noBackslash : c ≠ '\\')
      (later : Characters text word rest) : Characters (c :: text) (c :: word) rest
  | escape (known : plainEscape mark = some c) (later : Characters text word rest) :
      Characters ('\\' :: mark :: text) (c :: word) rest
  | unit (digits : fourHex a b c d = some code) (notHigh : isHighSurrogate code = false)
      (notLow : isLowSurrogate code = false) (later : Characters text word rest) :
      Characters ('\\' :: 'u' :: a :: b :: c :: d :: text) (Char.ofNat code :: word) rest
  | pair (digits : fourHex a b c d = some high) (isHigh : isHighSurrogate high = true)
      (digits' : fourHex a' b' c' d' = some low) (isLow : isLowSurrogate low = true)
      (later : Characters text word rest) :
      Characters
        ('\\' :: 'u' :: a :: b :: c :: d :: '\\' :: 'u' :: a' :: b' :: c' :: d' :: text)
        (Char.ofNat (0x10000 + (high - 0xD800) * 0x400 + (low - 0xDC00)) :: word) rest

section

variable {Word : Type} (Quoted : List Char → Word → List Char → Prop)

mutual

/-- A value, with strings as the relation reads them up to their closing marks. -/
inductive Value : List Char → Tree Word → List Char → Prop
  | null : Value ('n' :: 'u' :: 'l' :: 'l' :: rest) .null rest
  | true : Value ('t' :: 'r' :: 'u' :: 'e' :: rest) (.boolean true) rest
  | false : Value ('f' :: 'a' :: 'l' :: 's' :: 'e' :: rest) (.boolean false) rest
  | number (number : Number text value rest) : Value text (.number value) rest
  | string (quoted : Quoted text word rest) : Value ('"' :: text) (.string word) rest
  | noItems (closes : afterBlanks text = ']' :: rest) : Value ('[' :: text) (.array []) rest
  | array (items : Items (afterBlanks text) trees rest) : Value ('[' :: text) (.array trees) rest
  | noMembers (closes : afterBlanks text = '}' :: rest) : Value ('{' :: text) (.object []) rest
  | object (members : Members (afterBlanks text) entries rest) :
      Value ('{' :: text) (.object entries) rest

/-- The items of an array and its closing bracket. -/
inductive Items : List Char → List (Tree Word) → List Char → Prop
  | last (value : Value text tree behind) (closes : afterBlanks behind = ']' :: rest) :
      Items text [tree] rest
  | more (value : Value text tree behind) (comma : afterBlanks behind = ',' :: later)
      (items : Items (afterBlanks later) trees rest) : Items text (tree :: trees) rest

/-- The members of an object and its closing bracket. -/
inductive Members : List Char → List (Word × Tree Word) → List Char → Prop
  | last (member : Member text entry behind) (closes : afterBlanks behind = '}' :: rest) :
      Members text [entry] rest
  | more (member : Member text entry behind) (comma : afterBlanks behind = ',' :: later)
      (members : Members (afterBlanks later) entries rest) :
      Members text (entry :: entries) rest

inductive Member : List Char → Word × Tree Word → List Char → Prop
  | mk (name : Quoted text word behindName) (colon : afterBlanks behindName = ':' :: bound)
      (value : Value (afterBlanks bound) tree rest) : Member ('"' :: text) (word, tree) rest

end

/-- The text is one value with nothing but blanks around it. -/
def Document (text : List Char) (tree : Tree Word) : Prop :=
  ∃ behind, Value Quoted (afterBlanks text) tree behind ∧ afterBlanks behind = []

end

theorem Digits.head (taken : Digits text digits rest) :
    ∃ c more, text = c :: more ∧ isDigit c = true := by
  obtain ⟨rfl, nonempty, digit, _⟩ := taken
  obtain ⟨c, more, rfl⟩ := List.exists_cons_of_ne_nil nonempty
  exact ⟨c, more ++ rest, rfl, digit c List.mem_cons_self⟩

theorem Unsigned.head (number : Unsigned text value rest) :
    ∃ c more, text = c :: more ∧ isDigit c = true := by
  cases number with
  | mk whole => exact whole.toDigits.head

theorem Number.head (number : Number text value rest) :
    ∃ c more, text = c :: more ∧ (isDigit c = true ∨ c = '-') := by
  cases number with
  | positive number =>
      obtain ⟨c, more, same, digit⟩ := number.head
      exact ⟨c, more, same, .inl digit⟩
  | negative => exact ⟨'-', _, rfl, .inr rfl⟩

theorem afterBlanks_append {blanks : List Char} (blank : ∀ c ∈ blanks, Reader.isBlank c = true) :
    afterBlanks (blanks ++ text) = afterBlanks text :=
  List.dropWhile_append_of_pos blank

theorem isBlank_of_isDigit {c : Char} (digit : isDigit c = true) : Reader.isBlank c = false := by
  cases blank : Reader.isBlank c with
  | false => rfl
  | true =>
      simp only [Reader.isBlank, Bool.or_eq_true, beq_iff_eq] at blank
      obtain ((rfl | rfl) | rfl) | rfl := blank
      all_goals cases digit

/-- Nothing that stands for a value starts with a blank. -/
theorem Value.afterBlanks_eq (value : Value Quoted text tree rest) : afterBlanks text = text := by
  cases value with
  | number number =>
      obtain ⟨c, more, rfl, digit | rfl⟩ := number.head
      · exact List.dropWhile_cons_of_neg (by simp [isBlank_of_isDigit digit])
      · rfl
  | null | true | false | string | noItems | array | noMembers | object => rfl

theorem Value.ne_nil (value : Value Quoted text tree rest) : text ≠ [] := by
  cases value with
  | number number =>
      obtain ⟨c, more, same, _⟩ := number.head
      rw [same]
      exact List.cons_ne_nil c more
  | null | true | false | string | noItems | array | noMembers | object =>
      exact List.cons_ne_nil _ _

@[simp]
theorem not_value_nil : ¬ Value Quoted [] tree rest :=
  fun value => value.ne_nil rfl

theorem Member.ne_nil (member : Member Quoted text entry rest) : text ≠ [] := by
  cases member with
  | mk => exact List.cons_ne_nil _ _

theorem Items.ne_nil (items : Items Quoted text trees rest) : text ≠ [] := by
  cases items with
  | last value | more value => exact value.ne_nil

theorem Members.ne_nil (members : Members Quoted text entries rest) : text ≠ [] := by
  cases members with
  | last member | more member => exact member.ne_nil

theorem Member.afterBlanks_eq (member : Member Quoted text entry rest) : afterBlanks text = text := by
  cases member with
  | mk => rfl

end Grammar

/-- The text is one value with nothing but blanks around it, and stands for the tree. -/
abbrev Document (text : List Char) (tree : Tree (List Char)) : Prop :=
  Grammar.Document Grammar.Characters text tree

end TokenStream.Json
