import Mathlib.Data.List.Forall2
import TokenStream.Json.Value
import TokenStream.Proofs.Json.Grammar

namespace TokenStream.Json

open Grammar (Characters)

namespace Value

mutual

/-- What a value stands for. -/
def tree : Value → Tree (List Char)
  | .number value => .number value
  | .string text => .string text
  | .array items => .array (trees items)
  | .object members => .object (memberTrees members)

def trees : List Value → List (Tree (List Char))
  | [] => []
  | item :: items => item.tree :: trees items

def memberTrees : List (String × Value) → List (List Char × Tree (List Char))
  | [] => []
  | (name, value) :: members => (name.toList, value.tree) :: memberTrees members

end

end Value

/-- No number carries on into the text. -/
def EndsNumber (text : List Char) : Prop :=
  ∀ c ∈ text.head?, isDigit c = false ∧ c ≠ '.' ∧ c ≠ 'e' ∧ c ≠ 'E'

theorem endsNumber_nil : EndsNumber [] := by
  intro c next
  cases next

theorem endsNumber_cons (other : isDigit c = false) (noPoint : c ≠ '.')
    (noMark : c ≠ 'e' ∧ c ≠ 'E') : EndsNumber (c :: text) := by
  intro next same
  cases same
  exact ⟨other, noPoint, noMark⟩

theorem endsNumber_comma : EndsNumber (',' :: text) :=
  endsNumber_cons rfl (by decide) (by decide)

theorem endsNumber_blanks {blanks : List Char} (blank : ∀ c ∈ blanks, Reader.isBlank c = true)
    (ends : EndsNumber text) : EndsNumber (blanks ++ text) := by
  cases blanks with
  | nil => exact ends
  | cons c blanks =>
      have first := blank c List.mem_cons_self
      simp only [Reader.isBlank, Bool.or_eq_true, beq_iff_eq] at first
      obtain ((rfl | rfl) | rfl) | rfl := first
      all_goals exact endsNumber_cons rfl (by decide) (by decide)

/-- The word stands for its meaning wherever a number in its place would be over. -/
def Spells (Reads : List Char → α → List Char → Prop) (word : List Char) (meaning : α) : Prop :=
  ∀ rest, EndsNumber rest → Reads (word ++ rest) meaning rest

theorem isDigit_eq (c : Char) : isDigit c = c.isDigit := by
  simp [isDigit, Char.isDigit, Char.le_def]

/-- Only zero is written with a zero in front. -/
theorem head_writeNumber (value : Nat) (leading : (writeNumber value).head? = some '0') :
    writeNumber value = ['0'] := by
  unfold writeNumber at *
  induction value using Nat.strongRecOn with
  | ind value ih =>
      by_cases small : value < 10
      · rw [Nat.toDigits_of_lt_base small] at leading ⊢
        exact congrArg (· :: []) (Option.some.inj leading)
      · have large : 10 ≤ value := Nat.le_of_not_lt small
        rw [Nat.toDigits_of_base_le (by decide) large,
          List.head?_append_of_ne_nil _ Nat.toDigits_ne_nil] at leading
        have zero := ih (value / 10) (by omega) leading
        have same := congrArg (Nat.ofDigitChars 10 · 0) zero
        simp only [Nat.ofDigitChars_toDigits (b := 10) (by decide) (by decide)] at same
        change value / 10 = 0 at same
        omega

theorem spells_writeNumber (value : Nat) :
    Spells (Grammar.Value Characters) (writeNumber value) (.number value) := by
  intro rest ends
  have whole : Grammar.Whole (writeNumber value ++ rest) (writeNumber value) rest :=
    { split := rfl
      nonempty := Nat.toDigits_ne_nil
      digit := fun c member => by
        rw [isDigit_eq]
        exact Nat.isDigit_of_mem_toDigits (by decide) (by decide) member
      stops := fun c next => (ends c next).1
      leading := head_writeNumber value }
  have part : Grammar.Fraction rest [] rest := .absent fun point => (ends _ point).2.1 rfl
  have scale : Grammar.Power rest 0 rest := .absent fun c next => (ends c next).2.2
  have spelt : Grammar.decimal (writeNumber value) [] 0 = value := by
    simp [Grammar.decimal, Grammar.natural, writeNumber,
      Nat.ofDigitChars_toDigits (b := 10) (n := value) (by decide) (by decide)]
  rw [← spelt]
  exact .number (.positive (.mk whole part scale))

theorem fourHex_hexPair : ∀ code < 0x20,
    fourHex '0' '0' (Nat.digitChar (code / 16)) (Nat.digitChar (code % 16)) = some code := by
  decide

theorem characters_escapeChar (c : Char) (later : Characters text word rest) :
    Characters (escapeChar c ++ text) (c :: word) rest := by
  unfold escapeChar
  split
  case h_8 noMark noBackslash _ _ _ _ _ =>
    split
    case isTrue control =>
      have unit := Characters.unit (fourHex_hexPair c.toNat control)
        (by simp [isHighSurrogate]; omega) (by simp [isLowSurrogate]; omega) later
      rwa [Char.ofNat_toNat] at unit
    case isFalse visible =>
      exact .plain (Char.le_def.mpr (UInt32.le_iff_toNat_le.mpr (Nat.le_of_not_lt visible)))
        noMark noBackslash later
  all_goals exact .escape rfl later

theorem characters_escaped (text : List Char) :
    Characters (text.flatMap escapeChar ++ '"' :: rest) text rest := by
  induction text with
  | nil => exact .close
  | cons c text ih =>
      rw [List.flatMap_cons, List.append_assoc]
      exact characters_escapeChar c ih

theorem spells_writeString (text : List Char) :
    Spells (Grammar.Value Characters) (writeString text) (.string text) := by
  intro rest _
  simp only [writeString, List.cons_append, List.append_assoc, List.nil_append]
  exact .string (characters_escaped text)

/-- The items of a value stand between brackets and have commas between them. -/
structure Bracketed (Item : List Char → α → List Char → Prop)
    (Items : List Char → List α → List Char → Prop) (whole : List α → Tree (List Char))
    (opening closing : Char) : Prop where
  none : ∀ rest, Grammar.Value Characters (opening :: closing :: rest) (whole []) rest
  some : ∀ {text items rest}, Items (Grammar.afterBlanks text) items rest →
    Grammar.Value Characters (opening :: text) (whole items) rest
  last : ∀ {text item behind rest}, Item text item behind →
    Grammar.afterBlanks behind = closing :: rest → Items text [item] rest
  more : ∀ {text item behind later items rest}, Item text item behind →
    Grammar.afterBlanks behind = ',' :: later → Items (Grammar.afterBlanks later) items rest →
    Items text (item :: items) rest
  start : ∀ {text item rest}, Item text item rest → Grammar.afterBlanks text = text
  ends : ∀ text, EndsNumber (closing :: text)
  visible : Reader.isBlank closing = false

theorem bracketed_array :
    Bracketed (Grammar.Value Characters) (Grammar.Items Characters) .array '[' ']' where
  none _ := .noItems rfl
  some := .array
  last := .last
  more := .more
  start value := value.afterBlanks_eq
  ends _ := endsNumber_cons rfl (by decide) (by decide)
  visible := rfl

theorem bracketed_object :
    Bracketed (Grammar.Member Characters) (Grammar.Members Characters) .object '{' '}' where
  none _ := .noMembers rfl
  some := .object
  last := .last
  more := .more
  start member := member.afterBlanks_eq
  ends _ := endsNumber_cons rfl (by decide) (by decide)
  visible := rfl

section

variable {Item : List Char → α → List Char → Prop} {Items : List Char → List α → List Char → Prop}
variable {whole : List α → Tree (List Char)} {opening closing : Char}
variable {words : List (List Char)} {items : List α}

/-- Words that spell the items may have blanks in front of each and behind the last one. -/
theorem Bracketed.items_of_words {before after : List Char}
    (bracketed : Bracketed Item Items whole opening closing)
    (beforeBlank : ∀ c ∈ before, Reader.isBlank c = true)
    (afterBlank : ∀ c ∈ after, Reader.isBlank c = true)
    (spelt : List.Forall₂ (Spells Item) words items) (nonempty : words ≠ []) :
    Items (Grammar.afterBlanks
      (List.intercalate [','] (words.map (before ++ ·)) ++ (after ++ closing :: rest))) items rest := by
  have skipped {text : List Char} {item : α} {behind : List Char} (read : Item text item behind) :
      Grammar.afterBlanks (before ++ text) = text :=
    (Grammar.afterBlanks_append beforeBlank).trans (bracketed.start read)
  induction spelt with
  | nil => exact absurd rfl nonempty
  | @cons word item words items first others ih =>
      cases others with
      | nil =>
          have read := first _ (endsNumber_blanks afterBlank (bracketed.ends rest))
          have closes : Grammar.afterBlanks (after ++ closing :: rest) = closing :: rest := by
            rw [Grammar.afterBlanks_append afterBlank]
            exact List.dropWhile_cons_of_neg (by simp [bracketed.visible])
          rw [List.map_singleton, List.intercalate_singleton, List.append_assoc, skipped read]
          exact bracketed.last read closes
      | @cons second _ words _ _ others =>
          let later := List.intercalate [','] ((second :: words).map (before ++ ·)) ++
            (after ++ closing :: rest)
          have read := first (',' :: later) endsNumber_comma
          have parts : List.intercalate [','] ((word :: second :: words).map (before ++ ·)) ++
              (after ++ closing :: rest) = before ++ (word ++ ',' :: later) := by
            simp [later]
          rw [parts, skipped read]
          exact bracketed.more read rfl (ih (List.cons_ne_nil _ _))

/-- A layout that adds nothing but blanks. -/
structure Layout.Blank (layout : Layout) : Prop where
  beforeItem : ∀ depth, ∀ c ∈ layout.beforeItem depth, Reader.isBlank c = true
  afterItems : ∀ depth, ∀ c ∈ layout.afterItems depth, Reader.isBlank c = true
  colon : ∃ blanks, layout.colon = ':' :: blanks ∧ ∀ c ∈ blanks, Reader.isBlank c = true

theorem isBlank_of_mem_newLine {c : Char} {depth : Nat}
    (member : c ∈ '\n' :: List.replicate (2 * depth) ' ') : Reader.isBlank c = true := by
  obtain rfl | inside := List.mem_cons.mp member
  · rfl
  · obtain rfl := List.eq_of_mem_replicate inside
    rfl

theorem indented_blank : indented.Blank where
  beforeItem _ _ member := isBlank_of_mem_newLine member
  afterItems _ _ member := isBlank_of_mem_newLine member
  colon := ⟨[' '], rfl, List.forall_mem_singleton.mpr rfl⟩

theorem Layout.enclose_append (layout : Layout) (depth : Nat) {words : List (List Char)}
    (nonempty : words ≠ []) :
    layout.enclose depth left right words ++ rest =
      left :: (List.intercalate [','] (words.map (layout.beforeItem (depth + 1) ++ ·)) ++
        (layout.afterItems depth ++ right :: rest)) := by
  simp [Layout.enclose, nonempty]

theorem Bracketed.spells_enclose (bracketed : Bracketed Item Items whole opening closing)
    {layout : Layout} (blank : layout.Blank) (depth : Nat)
    (spelt : List.Forall₂ (Spells Item) words items) :
    Spells (Grammar.Value Characters) (layout.enclose depth opening closing words) (whole items) := by
  intro rest _
  by_cases nonempty : words = []
  · subst nonempty
    cases spelt
    exact bracketed.none rest
  · rw [layout.enclose_append depth nonempty]
    exact bracketed.some
      (bracketed.items_of_words (blank.beforeItem _) (blank.afterItems _) spelt nonempty)

end

variable {layout : Layout}

theorem spells_member (blank : layout.Blank) (name : List Char)
    (spelt : Spells (Grammar.Value Characters) word tree) :
    Spells (Grammar.Member Characters) (writeString name ++ layout.colon ++ word) (name, tree) := by
  intro rest ends
  obtain ⟨blanks, colon, blank⟩ := blank.colon
  have value := spelt rest ends
  simp only [writeString, colon, List.cons_append, List.append_assoc, List.nil_append]
  refine .mk (characters_escaped name) rfl ?_
  rwa [Grammar.afterBlanks_append blank, value.afterBlanks_eq]

namespace Value

mutual

theorem spells_write (blank : layout.Blank) (depth : Nat) (value : Value) :
    Spells (Grammar.Value Characters) (value.write layout depth) value.tree := by
  match value with
  | .number value => exact spells_writeNumber value
  | .string text => exact spells_writeString text
  | .array items =>
      have spelt := spells_items blank (depth + 1) items
      rw [write, tree, writeItems_eq]
      exact bracketed_array.spells_enclose blank depth spelt
  | .object members =>
      have spelt := spells_members blank (depth + 1) members
      rw [write, tree, writeMembers_eq]
      exact bracketed_object.spells_enclose blank depth spelt

theorem spells_items (blank : layout.Blank) (depth : Nat) (items : List Value) :
    List.Forall₂ (Spells (Grammar.Value Characters)) (items.map (write layout depth))
      (trees items) := by
  match items with
  | [] => exact .nil
  | item :: items => exact .cons (spells_write blank depth item) (spells_items blank depth items)

theorem spells_members (blank : layout.Blank) (depth : Nat) (members : List (String × Value)) :
    List.Forall₂ (Spells (Grammar.Member Characters))
      (members.map fun (name, value) =>
        writeString name.toList ++ layout.colon ++ write layout depth value)
      (memberTrees members) := by
  match members with
  | [] => exact .nil
  | (name, value) :: members =>
      exact .cons (spells_member blank name.toList (spells_write blank depth value))
        (spells_members blank depth members)

end

/-- A written value is a document that stands for the value, in every layout that adds nothing but
blanks. -/
theorem document_write (blank : layout.Blank) (depth : Nat) (value : Value) :
    Document (value.write layout depth) value.tree := by
  have read := spells_write blank depth value [] endsNumber_nil
  rw [List.append_nil] at read
  exact ⟨[], by rwa [read.afterBlanks_eq], rfl⟩

end Value

end TokenStream.Json
