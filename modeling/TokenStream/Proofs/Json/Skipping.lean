import TokenStream.Proofs.Json.Taking

namespace TokenStream.Json

open Grammar (afterBlanks)

namespace Spelt

variable {bracket : Bracket} {brackets : List Bracket} {text rest behind : List Char}

/-- An item of an array, or a member of an object. -/
def Item : Bracket → List Char → List Char → Prop
  | .array, text, rest => ∃ form, Grammar.Value Pieces text form rest
  | .object, text, rest => ∃ entry, Grammar.Member Pieces text entry rest

/-- Items or members, and the closing bracket. -/
def Several : Bracket → List Char → List Char → Prop
  | .array, text, rest => ∃ forms, Grammar.Items Pieces text forms rest
  | .object, text, rest => ∃ entries, Grammar.Members Pieces text entries rest

/-- What may follow an item: the closing bracket, or a comma and more items. -/
def Closes (bracket : Bracket) (text rest : List Char) : Prop :=
  afterBlanks text = bracket.closing :: rest ∨
    ∃ later, afterBlanks text = ',' :: later ∧ Several bracket (afterBlanks later) rest

/-- What may follow an opening bracket. -/
def Opens (bracket : Bracket) (text rest : List Char) : Prop :=
  afterBlanks text = bracket.closing :: rest ∨ Several bracket (afterBlanks text) rest

/-- What follows a value inside the brackets, the innermost one first. -/
def Leaves : List Bracket → List Char → List Char → Prop
  | [], text, rest => text = rest
  | bracket :: outer, text, rest => ∃ behind, Closes bracket text behind ∧ Leaves outer behind rest

/-- What is taken from a stage on. -/
def Skips : Stage → List Bracket → List Char → List Char → Prop
  | .separator, brackets, text, rest => Leaves brackets text rest
  | .opened, [], text, rest => text = rest
  | .opened, bracket :: outer, text, rest =>
      ∃ behind, Opens bracket text behind ∧ Leaves outer behind rest
  | .name, brackets, text, rest =>
      ∃ behind, Item .object (afterBlanks text) behind ∧ Leaves brackets behind rest
  | .value, brackets, text, rest =>
      ∃ behind, Item .array (afterBlanks text) behind ∧ Leaves brackets behind rest

theorem several_iff :
    Several bracket text rest ↔
      ∃ behind, Item bracket text behind ∧ Closes bracket behind rest := by
  cases bracket with
  | array =>
      constructor
      · rintro ⟨forms, items⟩
        cases items with
        | last value closes => exact ⟨_, ⟨_, value⟩, .inl closes⟩
        | more value comma items => exact ⟨_, ⟨_, value⟩, .inr ⟨_, comma, _, items⟩⟩
      · rintro ⟨behind, ⟨form, value⟩, closes | ⟨later, comma, forms, items⟩⟩
        · exact ⟨_, .last value closes⟩
        · exact ⟨_, .more value comma items⟩
  | object =>
      constructor
      · rintro ⟨entries, members⟩
        cases members with
        | last member closes => exact ⟨_, ⟨_, member⟩, .inl closes⟩
        | more member comma members => exact ⟨_, ⟨_, member⟩, .inr ⟨_, comma, _, members⟩⟩
      · rintro ⟨behind, ⟨entry, member⟩, closes | ⟨later, comma, entries, members⟩⟩
        · exact ⟨_, .last member closes⟩
        · exact ⟨_, .more member comma members⟩

theorem skips_item :
    Skips bracket.item brackets text rest ↔
      ∃ behind, Item bracket (afterBlanks text) behind ∧ Leaves brackets behind rest := by
  cases bracket <;> exact Iff.rfl

theorem exists_value_bracket_iff :
    (∃ form, Grammar.Value Pieces ('[' :: text) form rest) ↔ Opens .array text rest := by
  simp only [Grammar.value_bracket_iff]
  constructor
  · rintro ⟨form, ⟨_, closes⟩ | ⟨forms, _, items⟩⟩
    · exact .inl closes
    · exact .inr ⟨forms, items⟩
  · rintro (closes | ⟨forms, items⟩)
    · exact ⟨_, .inl ⟨rfl, closes⟩⟩
    · exact ⟨_, .inr ⟨forms, rfl, items⟩⟩

theorem exists_value_brace_iff :
    (∃ form, Grammar.Value Pieces ('{' :: text) form rest) ↔ Opens .object text rest := by
  simp only [Grammar.value_brace_iff]
  constructor
  · rintro ⟨form, ⟨_, closes⟩ | ⟨entries, _, members⟩⟩
    · exact .inl closes
    · exact .inr ⟨entries, members⟩
  · rintro (closes | ⟨entries, members⟩)
    · exact ⟨_, .inl ⟨rfl, closes⟩⟩
    · exact ⟨_, .inr ⟨entries, rfl, members⟩⟩

theorem exists_number_minus_iff :
    (∃ value, Grammar.Number ('-' :: text) value rest) ↔
      ∃ value, Grammar.Unsigned text value rest := by
  constructor
  · rintro ⟨_, number⟩
    cases number with
    | positive number => exact absurd number (Grammar.not_unsigned rfl)
    | negative number => exact ⟨_, number⟩
  · rintro ⟨_, number⟩
    exact ⟨_, .negative number⟩

theorem exists_number_iff {c : Char} (noMinus : c ≠ '-') :
    (∃ value, Grammar.Number (c :: text) value rest) ↔
      ∃ value, Grammar.Unsigned (c :: text) value rest := by
  constructor
  · rintro ⟨_, number⟩
    cases number with
    | positive number => exact ⟨_, number⟩
    | negative => exact absurd rfl noMinus
  · rintro ⟨_, number⟩
    exact ⟨_, .positive number⟩

theorem takes_skipNumeral {nothing : Unit} {atEnd : Cause} :
    Reader.Takes (do let _ ← Reader.numeral atEnd) text nothing rest ↔
      ∃ value, Grammar.Unsigned text value rest := by
  rw [← @Reader.takes_numeral text rest atEnd, Reader.takes_bind]
  simp

theorem takes_skipScalar {c : Char} {nothing : Unit} (noArray : c ≠ '[') (noObject : c ≠ '{') :
    skipScalar.Takes (c :: text) nothing rest ↔
      ∃ form, Grammar.Value Pieces (c :: text) form rest := by
  rw [skipScalar, Reader.takes_peek_bind, List.head?_cons]
  split
  · cases ‹some c = none›
  · rename_i same
    cases same
    simp [Grammar.value_n_iff]
  · rename_i same
    cases same
    simp [Grammar.value_t_iff]
  · rename_i same
    cases same
    simp [Grammar.value_f_iff]
  · rename_i same
    cases same
    simp [Grammar.value_mark_iff]
  · rename_i same
    cases same
    rw [Reader.takes_drop_bind, List.tail_cons, takes_skipNumeral, ← exists_number_minus_iff]
    simp [Grammar.value_other_iff]
  · rename_i found noN noT noF noMark noMinus same
    cases same
    have other : c ∉ ['n', 't', 'f', '"', '[', '{'] := by
      simp only [List.mem_cons, List.not_mem_nil, or_false, not_or]
      exact ⟨noN, noT, noF, noMark, noArray, noObject⟩
    cases digit : isDigit c with
    | true =>
        simp only [↓reduceIte, takes_skipNumeral, ← exists_number_iff noMinus]
        simp [Grammar.value_other_iff other]
    | false =>
        simp [Grammar.value_other_iff other, Grammar.not_number digit noMinus]

theorem item_scalar_iff {c : Char} (noArray : c ≠ '[') (noObject : c ≠ '{') :
    Item .array (c :: text) rest ↔ skipScalar (c :: text) = .ok ((), rest) :=
  (takes_skipScalar noArray noObject).symm

theorem takes_skipName {nothing : Unit} :
    skipName.Takes text nothing rest ↔
      ∃ spelt behind, Pieces text spelt behind ∧ afterBlanks behind = ':' :: rest := by
  simp only [skipName, Reader.takes_unit_bind, Reader.takes_skipString, Reader.takes_colon]
  constructor
  · rintro ⟨behind, ⟨spelt, pieces⟩, colon⟩
    exact ⟨spelt, behind, pieces, colon⟩
  · rintro ⟨spelt, behind, pieces, colon⟩
    exact ⟨behind, ⟨spelt, pieces⟩, colon⟩

theorem not_item_nil : ¬ Item bracket [] rest := by
  cases bracket with
  | array =>
      intro item
      obtain ⟨_, value⟩ := item
      exact value.ne_nil rfl
  | object =>
      intro item
      obtain ⟨_, member⟩ := item
      exact member.ne_nil rfl

theorem not_item_closing : ¬ Item bracket (bracket.closing :: text) rest := by
  cases bracket with
  | array =>
      rintro ⟨_, value⟩
      obtain ⟨_, _, number⟩ := (Grammar.value_other_iff (by decide)).mp value
      exact Grammar.not_number rfl (by decide) number
  | object =>
      rintro ⟨_, member⟩
      cases member

/-- A member is a name and a colon, and a value behind them. -/
theorem item_member_iff :
    Item .object ('"' :: text) rest ↔
      ∃ bound, skipName text = .ok ((), bound) ∧ Item .array (afterBlanks bound) rest := by
  have named (bound) := @takes_skipName text bound ()
  simp only [Reader.Takes] at named
  simp only [named]
  constructor
  · rintro ⟨_, member⟩
    cases member with
    | mk name colon value => exact ⟨_, ⟨_, _, name, colon⟩, _, value⟩
  · rintro ⟨bound, ⟨spelt, behind, name, colon⟩, form, value⟩
    exact ⟨_, .mk name colon value⟩

theorem not_item_of_not_name {c : Char} (other : c ≠ '"') : ¬ Item .object (c :: text) rest := by
  rintro ⟨_, member⟩
  cases member
  exact other rfl

theorem closes_comma_iff {later : List Char} (comma : afterBlanks text = ',' :: later) :
    Closes bracket text rest ↔ Several bracket (afterBlanks later) rest := by
  have noEnd : ',' ≠ bracket.closing := by cases bracket <;> decide
  simp [Closes, comma, noEnd]

theorem closes_closing_iff (closing : afterBlanks text = bracket.closing :: behind) :
    Closes bracket text rest ↔ behind = rest := by
  have noComma : bracket.closing ≠ ',' := by cases bracket <;> decide
  simp [Closes, closing, noComma]

theorem Closes.head (closes : Closes bracket text rest) :
    ∃ later, afterBlanks text = ',' :: later ∨ afterBlanks text = bracket.closing :: later := by
  rcases closes with closing | ⟨later, comma, _⟩
  · exact ⟨rest, .inr closing⟩
  · exact ⟨later, .inl comma⟩

theorem opens_closing_iff (closing : afterBlanks text = bracket.closing :: behind) :
    Opens bracket text rest ↔ behind = rest := by
  have none : ¬ Several bracket (bracket.closing :: behind) rest := by
    rw [several_iff]
    rintro ⟨_, item, _⟩
    exact not_item_closing item
  simp [Opens, closing, none]

theorem opens_item_iff {c : Char} (found : afterBlanks text = c :: behind)
    (noEnd : c ≠ bracket.closing) :
    Opens bracket text rest ↔ Several bracket (c :: behind) rest := by
  simp [Opens, found, noEnd]

theorem afterBlanks_of_found {c : Char} (found : afterBlanks text = c :: behind) :
    afterBlanks (c :: behind) = c :: behind := by
  have stopped := List.head?_dropWhile_not Reader.isBlank text
  rw [show text.dropWhile Reader.isBlank = c :: behind from found] at stopped
  exact List.dropWhile_cons_of_neg (by simpa using stopped)

/-- Items behind a bracket leave it and the brackets around it one after the other. -/
theorem exists_item_leaves_iff :
    (∃ behind, Item bracket text behind ∧ Leaves (bracket :: brackets) behind rest) ↔
      ∃ behind, Several bracket text behind ∧ Leaves brackets behind rest := by
  simp only [several_iff, Leaves]
  constructor
  · rintro ⟨first, item, last, closes, leaves⟩
    exact ⟨last, ⟨first, item, closes⟩, leaves⟩
  · rintro ⟨last, ⟨first, item, closes⟩, leaves⟩
    exact ⟨first, item, last, closes, leaves⟩

end Spelt

open Spelt

/-- From each stage on, what is passed over is what the grammar has there. -/
theorem skip_eq_ok_iff {stage : Stage} {brackets : List Bracket} {text rest : List Char} :
    skip stage brackets text = .ok rest ↔ Skips stage brackets text rest := by
  -- Behind an item are the first five cases, behind an opening bracket the next four, then come
  -- those of a name and those of a value.
  fun_induction skip stage brackets text with
  | case1 => simp [Skips, Leaves]
  | case2 text bracket outer found =>
      refine iff_of_false (by simp [failAt]) ?_
      rintro ⟨behind, closes, _⟩
      obtain ⟨later, comma | closing⟩ := closes.head
      · cases found.symm.trans comma
      · cases found.symm.trans closing
  | case3 text bracket outer later found ih =>
      rw [ih, skips_item, exists_item_leaves_iff]
      simp only [Skips, Leaves, closes_comma_iff found]
  | case4 text bracket outer later found noComma ih =>
      rw [ih]
      simp [Skips, Leaves, closes_closing_iff found]
  | case5 text bracket outer c later found noComma noEnd =>
      refine iff_of_false (by simp [failAt]) ?_
      rintro ⟨behind, closes, _⟩
      obtain ⟨later, comma | closing⟩ := closes.head
      · cases found.symm.trans comma
        exact noComma rfl
      · cases found.symm.trans closing
        exact noEnd rfl
  | case6 => simp [Skips]
  | case7 text bracket outer found =>
      have blanks : afterBlanks text = [] := found
      simp [Skips, Opens, blanks, several_iff, not_item_nil, failAt]
  | case8 text bracket outer later found ih =>
      rw [ih]
      simp [Skips, opens_closing_iff found]
  | case9 text bracket outer c later found noEnd ih =>
      rw [ih, skips_item, afterBlanks_of_found found, exists_item_leaves_iff]
      simp only [Skips, opens_item_iff found noEnd]
  | case10 text brackets found =>
      have blanks : afterBlanks text = [] := found
      simp [Skips, blanks, not_item_nil, failAt]
  | case11 text brackets later failure fails found =>
      have blanks : afterBlanks text = '"' :: later := found
      simp [Skips, blanks, item_member_iff, fails]
  | case12 text brackets later bound read found ih =>
      have blanks : afterBlanks text = '"' :: later := found
      rw [ih]
      simp [Skips, blanks, item_member_iff, read]
  | case13 text brackets c later found noName =>
      have blanks : afterBlanks text = c :: later := found
      simp [Skips, blanks, not_item_of_not_name noName, failAt]
  | case14 text brackets found =>
      have blanks : afterBlanks text = [] := found
      simp [Skips, blanks, not_item_nil, failAt]
  | case15 text brackets later found ih =>
      have blanks : afterBlanks text = '[' :: later := found
      rw [ih]
      simp only [Skips, blanks, Item, exists_value_bracket_iff]
  | case16 text brackets later found noArray ih =>
      have blanks : afterBlanks text = '{' :: later := found
      rw [ih]
      simp only [Skips, blanks, Item, exists_value_brace_iff]
  | case17 text brackets c later found noArray noObject failure fails =>
      have blanks : afterBlanks text = c :: later := found
      simp [Skips, blanks, item_scalar_iff noArray noObject, fails]
  | case18 text brackets c later found noArray noObject behind read ih =>
      have blanks : afterBlanks text = c :: later := found
      rw [ih]
      simp [Skips, blanks, item_scalar_iff noArray noObject, read]

namespace Reader

/-- A value that nobody asked for may be any value. -/
@[simp]
theorem takes_skipValue {text rest : List Char} {nothing : Unit} :
    Takes skipValue text nothing rest ↔
      ∃ form, Grammar.Value Pieces (afterBlanks text) form rest := by
  have skips :
      skip .value [] text = .ok rest ↔
        ∃ form, Grammar.Value Pieces (afterBlanks text) form rest := by
    rw [skip_eq_ok_iff]
    simp [Skips, Leaves, Item]
  rw [← skips, Takes, skipValue, ofSkip]
  cases skip .value [] text <;> simp

@[simp]
theorem takes_skipValue_bind {α : Type} {text rest : List Char} {second : Unit → Reader α}
    {value : α} :
    Takes (skipValue >>= second) text value rest ↔
      ∃ form behind, Grammar.Value Pieces (afterBlanks text) form behind ∧
        (second ()).Takes behind value rest := by
  simp only [takes_unit_bind, takes_skipValue]
  constructor
  · rintro ⟨behind, ⟨form, found⟩, taken⟩
    exact ⟨form, behind, found, taken⟩
  · rintro ⟨form, behind, found, taken⟩
    exact ⟨behind, ⟨form, found⟩, taken⟩

end Reader

end TokenStream.Json
