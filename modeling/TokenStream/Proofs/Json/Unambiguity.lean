import TokenStream.Proofs.Json.Form

namespace TokenStream.Json

namespace Grammar

theorem Digits.eq_takeWhile (taken : Digits text digits rest) :
    digits = text.takeWhile isDigit ∧ rest = text.dropWhile isDigit := by
  obtain ⟨rfl, _, digit, stops⟩ := taken
  rw [List.takeWhile_append_of_pos digit, List.dropWhile_append_of_pos digit]
  cases rest with
  | nil => simp
  | cons c rest => simp [stops c rfl]

theorem Digits.unique (first : Digits text digits rest) (second : Digits text digits' rest') :
    digits = digits' ∧ rest = rest' := by
  rw [first.eq_takeWhile.1, first.eq_takeWhile.2, second.eq_takeWhile.1, second.eq_takeWhile.2]
  exact ⟨rfl, rfl⟩

theorem not_digits (other : isDigit c = false) : ¬ Digits (c :: text) digits rest := by
  intro taken
  obtain ⟨_, _, same, digit⟩ := taken.head
  cases same
  rw [other] at digit
  cases digit

theorem Fraction.unique (first : Fraction text digits rest)
    (second : Fraction text digits' rest') : digits = digits' ∧ rest = rest' := by
  cases first with
  | absent noPoint =>
      cases second with
      | absent => exact ⟨rfl, rfl⟩
      | present => exact absurd rfl noPoint
  | present taken =>
      cases second with
      | absent noPoint => exact absurd rfl noPoint
      | present taken' => exact taken.unique taken'

theorem Power.unique (first : Power text power rest) (second : Power text power' rest') :
    power = power' ∧ rest = rest' := by
  cases first with
  | absent noMark =>
      cases second with
      | absent => exact ⟨rfl, rfl⟩
      | unsigned mark | plus mark | minus mark =>
          exact absurd mark (not_or.mpr (noMark _ rfl))
  | unsigned mark taken =>
      cases second with
      | absent noMark => exact absurd mark (not_or.mpr (noMark _ rfl))
      | unsigned _ taken' =>
          obtain ⟨rfl, rfl⟩ := taken.unique taken'
          exact ⟨rfl, rfl⟩
      | plus | minus => exact absurd taken (not_digits rfl)
  | plus mark taken =>
      cases second with
      | absent noMark => exact absurd mark (not_or.mpr (noMark _ rfl))
      | unsigned _ taken' => exact absurd taken' (not_digits rfl)
      | plus _ taken' =>
          obtain ⟨rfl, rfl⟩ := taken.unique taken'
          exact ⟨rfl, rfl⟩
  | minus mark taken =>
      cases second with
      | absent noMark => exact absurd mark (not_or.mpr (noMark _ rfl))
      | unsigned _ taken' => exact absurd taken' (not_digits rfl)
      | minus _ taken' =>
          obtain ⟨rfl, rfl⟩ := taken.unique taken'
          exact ⟨rfl, rfl⟩

theorem Unsigned.unique (first : Unsigned text value rest)
    (second : Unsigned text value' rest') : value = value' ∧ rest = rest' := by
  cases first with
  | mk whole part scale =>
      cases second with
      | mk whole' part' scale' =>
          obtain ⟨rfl, rfl⟩ := whole.toDigits.unique whole'.toDigits
          obtain ⟨rfl, rfl⟩ := part.unique part'
          obtain ⟨rfl, rfl⟩ := scale.unique scale'
          exact ⟨rfl, rfl⟩

theorem not_unsigned (other : isDigit c = false) : ¬ Unsigned (c :: text) value rest := by
  intro number
  obtain ⟨_, _, same, digit⟩ := number.head
  cases same
  rw [other] at digit
  cases digit

theorem Number.unique (first : Number text value rest) (second : Number text value' rest') :
    value = value' ∧ rest = rest' := by
  cases first with
  | positive number =>
      cases second with
      | positive number' => exact number.unique number'
      | negative => exact absurd number (not_unsigned rfl)
  | negative number =>
      cases second with
      | positive number' => exact absurd number' (not_unsigned rfl)
      | negative number' =>
          obtain ⟨rfl, rfl⟩ := number.unique number'
          exact ⟨rfl, rfl⟩

theorem not_number (other : isDigit c = false) (noMinus : c ≠ '-') :
    ¬ Number (c :: text) value rest := by
  intro number
  obtain ⟨_, _, same, start⟩ := number.head
  cases same
  rw [other] at start
  exact start.elim nofun noMinus

section

variable {Word : Type} {Quoted : List Char → Word → List Char → Prop}
variable {text rest : List Char} {tree : Tree Word}

theorem value_n_iff :
    Value Quoted ('n' :: text) tree rest ↔ tree = .null ∧ text = 'u' :: 'l' :: 'l' :: rest := by
  constructor
  · intro value
    cases value with
    | null => exact ⟨rfl, rfl⟩
    | number number => exact absurd number (not_number rfl (by decide))
  · intro parts
    obtain ⟨rfl, rfl⟩ := parts
    exact .null

theorem value_t_iff :
    Value Quoted ('t' :: text) tree rest ↔
      tree = .boolean true ∧ text = 'r' :: 'u' :: 'e' :: rest := by
  constructor
  · intro value
    cases value with
    | true => exact ⟨rfl, rfl⟩
    | number number => exact absurd number (not_number rfl (by decide))
  · intro parts
    obtain ⟨rfl, rfl⟩ := parts
    exact .true

theorem value_f_iff :
    Value Quoted ('f' :: text) tree rest ↔
      tree = .boolean false ∧ text = 'a' :: 'l' :: 's' :: 'e' :: rest := by
  constructor
  · intro value
    cases value with
    | false => exact ⟨rfl, rfl⟩
    | number number => exact absurd number (not_number rfl (by decide))
  · intro parts
    obtain ⟨rfl, rfl⟩ := parts
    exact .false

theorem value_mark_iff :
    Value Quoted ('"' :: text) tree rest ↔ ∃ word, tree = .string word ∧ Quoted text word rest := by
  constructor
  · intro value
    cases value with
    | string quoted => exact ⟨_, rfl, quoted⟩
    | number number => exact absurd number (not_number rfl (by decide))
  · intro parts
    obtain ⟨_, rfl, quoted⟩ := parts
    exact .string quoted

theorem value_bracket_iff :
    Value Quoted ('[' :: text) tree rest ↔
      tree = .array [] ∧ afterBlanks text = ']' :: rest ∨
        ∃ trees, tree = .array trees ∧ Items Quoted (afterBlanks text) trees rest := by
  constructor
  · intro value
    cases value with
    | noItems closes => exact .inl ⟨rfl, closes⟩
    | array items => exact .inr ⟨_, rfl, items⟩
    | number number => exact absurd number (not_number rfl (by decide))
  · intro parts
    obtain ⟨rfl, closes⟩ | ⟨_, rfl, items⟩ := parts
    · exact .noItems closes
    · exact .array items

theorem value_brace_iff :
    Value Quoted ('{' :: text) tree rest ↔
      tree = .object [] ∧ afterBlanks text = '}' :: rest ∨
        ∃ entries, tree = .object entries ∧ Members Quoted (afterBlanks text) entries rest := by
  constructor
  · intro value
    cases value with
    | noMembers closes => exact .inl ⟨rfl, closes⟩
    | object members => exact .inr ⟨_, rfl, members⟩
    | number number => exact absurd number (not_number rfl (by decide))
  · intro parts
    obtain ⟨rfl, closes⟩ | ⟨_, rfl, members⟩ := parts
    · exact .noMembers closes
    · exact .object members

/-- A value that starts with anything else is a number. -/
theorem value_other_iff {c : Char} (other : c ∉ ['n', 't', 'f', '"', '[', '{']) :
    Value Quoted (c :: text) tree rest ↔
      ∃ value, tree = .number value ∧ Number (c :: text) value rest := by
  constructor
  · intro value
    cases value with
    | number number => exact ⟨_, rfl, number⟩
    | null | true | false | string | noItems | array | noMembers | object => simp at other
  · intro parts
    obtain ⟨_, rfl, number⟩ := parts
    exact .number number

end

/-- What a quoted text spells, and where it ends, is settled by the text alone. -/
structure Settles (Quoted : List Char → Word → List Char → Prop) : Prop where
  unique : Quoted text word rest → Quoted text word' rest' → word = word' ∧ rest = rest'

section

variable {Quoted : List Char → Word → List Char → Prop}

theorem Items.first (items : Items Quoted text trees rest) :
    ∃ tree behind, Value Quoted text tree behind ∧
      ((trees = [tree] ∧ afterBlanks behind = ']' :: rest) ∨
        ∃ others later, trees = tree :: others ∧ afterBlanks behind = ',' :: later ∧
          Items Quoted (afterBlanks later) others rest) := by
  cases items with
  | last value closes => exact ⟨_, _, value, .inl ⟨rfl, closes⟩⟩
  | more value comma items => exact ⟨_, _, value, .inr ⟨_, _, rfl, comma, items⟩⟩

theorem Members.first (members : Members Quoted text entries rest) :
    ∃ entry behind, Member Quoted text entry behind ∧
      ((entries = [entry] ∧ afterBlanks behind = '}' :: rest) ∨
        ∃ others later, entries = entry :: others ∧ afterBlanks behind = ',' :: later ∧
          Members Quoted (afterBlanks later) others rest) := by
  cases members with
  | last member closes => exact ⟨_, _, member, .inl ⟨rfl, closes⟩⟩
  | more member comma members => exact ⟨_, _, member, .inr ⟨_, _, rfl, comma, members⟩⟩

theorem Member.parts (member : Member Quoted ('"' :: text) entry rest) :
    ∃ behindName bound, Quoted text entry.1 behindName ∧
      afterBlanks behindName = ':' :: bound ∧
        Value Quoted (afterBlanks bound) entry.2 rest := by
  cases member with
  | mk quoted colon value => exact ⟨_, _, quoted, colon, value⟩

/-- An array without items is not mistaken for one with items. -/
theorem not_items_of_closes (closes : text = ']' :: rest) : ¬ Items Quoted text trees rest' := by
  subst closes
  intro items
  obtain ⟨_, _, value, _⟩ := items.first
  cases value with
  | number number => exact not_number rfl (by decide) number

theorem not_members_of_closes (closes : text = '}' :: rest) :
    ¬ Members Quoted text entries rest' := by
  subst closes
  intro members
  obtain ⟨_, _, member, _⟩ := members.first
  cases member

mutual

theorem Value.unique (settles : Settles Quoted) (first : Value Quoted text tree rest)
    (second : Value Quoted text tree' rest') : tree = tree' ∧ rest = rest' := by
  match first with
  | .null =>
      obtain ⟨same, behind⟩ := value_n_iff.mp second
      cases behind
      exact ⟨same.symm, rfl⟩
  | .true =>
      obtain ⟨same, behind⟩ := value_t_iff.mp second
      cases behind
      exact ⟨same.symm, rfl⟩
  | .false =>
      obtain ⟨same, behind⟩ := value_f_iff.mp second
      cases behind
      exact ⟨same.symm, rfl⟩
  | .number number =>
      cases second with
      | number number' =>
          obtain ⟨same, behind⟩ := number.unique number'
          exact ⟨congrArg _ same, behind⟩
      | null | true | false | string | noItems | array | noMembers | object =>
          exact absurd number (not_number rfl (by decide))
  | .string quoted =>
      obtain ⟨_, same, quoted'⟩ := value_mark_iff.mp second
      obtain ⟨word, behind⟩ := settles.unique quoted quoted'
      exact ⟨by rw [same, word], behind⟩
  | .noItems closes =>
      obtain ⟨same, closes'⟩ | ⟨_, _, items⟩ := value_bracket_iff.mp second
      · exact ⟨same.symm, (List.cons.inj (closes.symm.trans closes')).2⟩
      · exact absurd items (not_items_of_closes closes)
  | .array items =>
      obtain ⟨_, closes⟩ | ⟨_, same, items'⟩ := value_bracket_iff.mp second
      · exact absurd items (not_items_of_closes closes)
      · obtain ⟨inside, behind⟩ := items.unique settles items'
        exact ⟨by rw [same, inside], behind⟩
  | .noMembers closes =>
      obtain ⟨same, closes'⟩ | ⟨_, _, members⟩ := value_brace_iff.mp second
      · exact ⟨same.symm, (List.cons.inj (closes.symm.trans closes')).2⟩
      · exact absurd members (not_members_of_closes closes)
  | .object members =>
      obtain ⟨_, closes⟩ | ⟨_, same, members'⟩ := value_brace_iff.mp second
      · exact absurd members (not_members_of_closes closes)
      · obtain ⟨inside, behind⟩ := members.unique settles members'
        exact ⟨by rw [same, inside], behind⟩
termination_by structural first

theorem Items.unique (settles : Settles Quoted) (first : Items Quoted text trees rest)
    (second : Items Quoted text trees' rest') : trees = trees' ∧ rest = rest' := by
  obtain ⟨_, _, value', following⟩ := second.first
  match first with
  | .last value closes =>
      obtain ⟨same, behind⟩ := value.unique settles value'
      subst same behind
      obtain ⟨alone, closes'⟩ | ⟨_, _, _, comma, _⟩ := following
      · exact ⟨alone.symm, (List.cons.inj (closes.symm.trans closes')).2⟩
      · cases closes.symm.trans comma
  | .more value comma items =>
      obtain ⟨same, behind⟩ := value.unique settles value'
      subst same behind
      obtain ⟨_, closes⟩ | ⟨_, _, several, comma', items'⟩ := following
      · cases closes.symm.trans comma
      · cases comma.symm.trans comma'
        obtain ⟨others, behind⟩ := items.unique settles items'
        exact ⟨by rw [several, others], behind⟩
termination_by structural first

theorem Members.unique (settles : Settles Quoted) (first : Members Quoted text entries rest)
    (second : Members Quoted text entries' rest') : entries = entries' ∧ rest = rest' := by
  obtain ⟨_, _, member', following⟩ := second.first
  match first with
  | .last member closes =>
      obtain ⟨same, behind⟩ := member.unique settles member'
      subst same behind
      obtain ⟨alone, closes'⟩ | ⟨_, _, _, comma, _⟩ := following
      · exact ⟨alone.symm, (List.cons.inj (closes.symm.trans closes')).2⟩
      · cases closes.symm.trans comma
  | .more member comma members =>
      obtain ⟨same, behind⟩ := member.unique settles member'
      subst same behind
      obtain ⟨_, closes⟩ | ⟨_, _, several, comma', members'⟩ := following
      · cases closes.symm.trans comma
      · cases comma.symm.trans comma'
        obtain ⟨others, behind⟩ := members.unique settles members'
        exact ⟨by rw [several, others], behind⟩
termination_by structural first

theorem Member.unique (settles : Settles Quoted) (first : Member Quoted text entry rest)
    (second : Member Quoted text entry' rest') : entry = entry' ∧ rest = rest' := by
  match first with
  | .mk quoted colon value =>
      obtain ⟨_, _, quoted', colon', value'⟩ := second.parts
      obtain ⟨name, behindName⟩ := settles.unique quoted quoted'
      subst behindName
      cases colon.symm.trans colon'
      obtain ⟨tree, behind⟩ := value.unique settles value'
      exact ⟨Prod.ext name tree, behind⟩
termination_by structural first

end

theorem Document.unique (settles : Settles Quoted) (first : Document Quoted text tree)
    (second : Document Quoted text tree') : tree = tree' := by
  obtain ⟨_, value, _⟩ := first
  obtain ⟨_, value', _⟩ := second
  exact (value.unique settles value').1

end

end Grammar

namespace Spelt

theorem Pieces.unique (first : Pieces text pieces rest) (second : Pieces text pieces' rest') :
    pieces = pieces' ∧ rest = rest' := by
  induction first generalizing pieces' rest' with
  | close =>
      cases second with
      | close => exact ⟨rfl, rfl⟩
      | plain _ noMark => contradiction
  | plain visible noMark noBackslash later ih =>
      cases second with
      | close | escape | unit => contradiction
      | plain _ _ _ later' =>
          obtain ⟨same, behind⟩ := ih later'
          exact ⟨congrArg _ same, behind⟩
  | escape known later ih =>
      cases second with
      | plain | unit => contradiction
      | escape known' later' =>
          obtain ⟨same, behind⟩ := ih later'
          have character := Option.some.inj (known.symm.trans known')
          subst character
          exact ⟨congrArg _ same, behind⟩
  | unit digits later ih =>
      cases second with
      | plain | escape => contradiction
      | unit digits' later' =>
          obtain ⟨same, behind⟩ := ih later'
          have code := Option.some.inj (digits.symm.trans digits')
          subst code
          exact ⟨congrArg _ same, behind⟩

theorem settles_pieces : Grammar.Settles Pieces where
  unique := Pieces.unique

theorem Document.unique (first : Document text form) (second : Document text form') :
    form = form' :=
  Grammar.Document.unique settles_pieces first second

end Spelt

namespace Grammar

/-- A string is spelt in one way, and what is spelt so decodes to one text. -/
theorem settles_characters : Settles Characters where
  unique first second := by
    obtain ⟨pieces, spelt, decodes⟩ := characters_iff_decodes.mp first
    obtain ⟨pieces', spelt', decodes'⟩ := characters_iff_decodes.mp second
    obtain ⟨same, behind⟩ := spelt.unique spelt'
    subst same
    exact ⟨Option.some.inj (decodes.symm.trans decodes'), behind⟩

end Grammar

theorem Document.unique (first : Document text tree) (second : Document text tree') :
    tree = tree' :=
  Grammar.Document.unique Grammar.settles_characters first second

end TokenStream.Json
