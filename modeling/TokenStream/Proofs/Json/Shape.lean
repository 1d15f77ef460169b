import TokenStream.Proofs.Json.Skipping

namespace TokenStream.Json

open Grammar (afterBlanks)
open Spelt (Pieces)

namespace Reader

def Accepts (reader : Reader α) (Stands : Form → α → Prop) : Prop :=
  ∀ text value rest, reader.Takes text value rest ↔
    ∃ form, Grammar.Value Pieces (afterBlanks text) form rest ∧ Stands form value

end Reader

/-- A choice is its name, or an object that binds its name to null and holds nothing else. -/
inductive Chosen (choices : List (String × α)) : Form → α → Prop
  | name (decodes : decode? pieces = some name.toList) (known : (name, value) ∈ choices) :
      Chosen choices (.string pieces) value
  | member (decodes : decode? pieces = some name.toList) (known : (name, value) ∈ choices) :
      Chosen choices (.object [(pieces, .null)]) value

/-- Null, or something that stands for a value. -/
inductive Nullable (Stands : Form → α → Prop) : Form → Option α → Prop
  | null : Nullable Stands .null none
  | value (stands : Stands form value) : Nullable Stands form (some value)

namespace Reader

open Spelt

theorem Accepts.map {α β : Type} {reader : Reader α} {Stands : Form → α → Prop}
    (accepts : reader.Accepts Stands) (change : α → β) :
    Accepts (do return change (← reader)) fun form made =>
      ∃ value, Stands form value ∧ change value = made := by
  intro text made rest
  simp only [takes_bind, accepts _ _ _, takes_pure]
  constructor
  · rintro ⟨value, _, ⟨form, found, stands⟩, rfl, rfl⟩
    exact ⟨form, found, value, stands, rfl⟩
  · rintro ⟨form, found, value, stands, rfl⟩
    exact ⟨value, _, ⟨form, found, stands⟩, rfl, rfl⟩

theorem Accepts.congr {α : Type} {reader : Reader α} {Stands Stands' : Form → α → Prop}
    (accepts : reader.Accepts Stands)
    (same : ∀ form value, Stands form value ↔ Stands' form value) :
    reader.Accepts Stands' := by
  intro text value rest
  simp only [accepts _ _ _, same]

variable {text rest : List Char} {α : Type} {value : α}

@[simp]
theorem not_takes_unexpected {expected : String} :
    ¬ Takes (unexpected expected) text value rest := by
  rw [unexpected, takes_peek_bind]
  split
  case' h_8 => split
  all_goals simp [takes_bind]

theorem head_of_null {c : Char} (value : Grammar.Value Pieces (c :: text) .null rest) : c = 'n' := by
  cases value
  rfl

theorem head_of_boolean {c : Char} {truth : Bool}
    (value : Grammar.Value Pieces (c :: text) (.boolean truth) rest) :
    c = 't' ∨ c = 'f' := by
  cases value with
  | true => exact .inl rfl
  | false => exact .inr rfl

theorem accepts_boolean : boolean.Accepts fun form value => form = .boolean value := by
  intro text value rest
  rw [boolean, takes_peekToken_bind]
  cases afterBlanks text with
  | nil => simp
  | cons c text =>
      by_cases isTrue : c = 't'
      · simp [isTrue, Grammar.value_t_iff, and_comm]
      by_cases isFalse : c = 'f'
      · simp [isFalse, Grammar.value_f_iff, and_comm]
      have neither : ¬ Grammar.Value Pieces (c :: text) (.boolean value) rest := fun found =>
        (head_of_boolean found).elim isTrue isFalse
      simp [neither]

theorem accepts_null : null.Accepts fun form _ => form = .null := by
  intro text value rest
  rw [null, takes_peekToken_bind]
  cases afterBlanks text with
  | nil => simp
  | cons c text =>
      by_cases isNull : c = 'n'
      · simp [isNull, Grammar.value_n_iff]
      · have other : ¬ Grammar.Value Pieces (c :: text) .null rest :=
          fun found => isNull (head_of_null found)
        simp [other]

theorem takes_null_bind {second : Unit → Reader α} :
    Takes (null >>= second) text value rest ↔
      ∃ behind, Grammar.Value Pieces (afterBlanks text) .null behind ∧
        (second ()).Takes behind value rest := by
  simp only [takes_unit_bind, accepts_null _ _ _]
  constructor
  · rintro ⟨behind, ⟨_, found, rfl⟩, taken⟩
    exact ⟨behind, found, taken⟩
  · rintro ⟨behind, found, taken⟩
    exact ⟨behind, ⟨_, found, rfl⟩, taken⟩

theorem afterBlanks_afterBlanks (text : List Char) :
    afterBlanks (afterBlanks text) = afterBlanks text := by
  cases found : afterBlanks text with
  | nil => rfl
  | cons c later => exact afterBlanks_of_found found

theorem nullable_null_iff {Stands : Form → α → Prop} {value? : Option α}
    (notNull : ∀ value, ¬ Stands .null value) : Nullable Stands .null value? ↔ none = value? := by
  constructor
  · intro nullable
    cases nullable with
    | null => rfl
    | value stands => exact absurd stands (notNull _)
  · rintro rfl
    exact .null

theorem accepts_optional {reader : Reader α} {Stands : Form → α → Prop}
    (accepts : reader.Accepts Stands) (notNull : ∀ value, ¬ Stands .null value) :
    (optional reader).Accepts (Nullable Stands) := by
  intro text value? rest
  have reads (value) := accepts (afterBlanks text) value rest
  rw [afterBlanks_afterBlanks] at reads
  rw [optional, takes_peekToken_bind]
  by_cases isNull : (afterBlanks text).head? = some 'n'
  · obtain ⟨later, starts⟩ := List.head?_eq_some_iff.mp isNull
    simp only [starts, Grammar.value_n_iff, List.head?_cons, takes_drop_bind, List.tail_cons,
      takes_word_bind, takes_pure, List.cons_append, List.nil_append]
    constructor
    · rintro ⟨_, rfl, rfl, rfl⟩
      exact ⟨.null, ⟨rfl, rfl⟩, .null⟩
    · rintro ⟨_, ⟨rfl, rfl⟩, nullable⟩
      exact ⟨rest, rfl, (nullable_null_iff notNull).mp nullable, rfl⟩
  · split
    · exact absurd ‹(afterBlanks text).head? = some 'n'› isNull
    · simp only [takes_map, bind_pure_comp, reads]
      constructor
      · rintro ⟨value, ⟨form, found, stands⟩, rfl⟩
        exact ⟨form, found, .value stands⟩
      · rintro ⟨form, found, nullable⟩
        cases nullable with
        | value stands => exact ⟨_, ⟨form, found, stands⟩, rfl⟩
        | null =>
            exfalso
            apply isNull
            generalize afterBlanks text = start at found
            cases found
            rfl

variable {choices : List (String × α)}

/-- A name is looked up where each name is listed only once. -/
theorem find?_name_iff (distinct : (choices.map (·.1)).Nodup) {name known : String} :
    (choices.find? fun (known, _) => known.toList == name.toList) = some (known, value) ↔
      known = name ∧ (name, value) ∈ choices := by
  induction choices with
  | nil => simp
  | cons choice choices ih =>
      obtain ⟨first, firstValue⟩ := choice
      obtain ⟨new, distinct⟩ := List.nodup_cons.mp distinct
      by_cases same : first = name
      · subst same
        have absent : (first, value) ∉ choices := fun member =>
          new (List.mem_map.mpr ⟨_, member, rfl⟩)
        simp [absent, eq_comm]
      · have other : (name, value) ≠ (first, firstValue) := fun found => same (by cases found; rfl)
        rw [List.find?_cons_of_neg (by simpa [String.toList_inj] using same), ih distinct]
        simp [other]

theorem takes_chosen (distinct : (choices.map (·.1)).Nodup) :
    Takes (chosen choices) text value rest ↔
      ∃ name, Grammar.Characters text name.toList rest ∧ (name, value) ∈ choices := by
  rw [chosen, takes_string_bind]
  constructor
  · rintro ⟨word, behind, characters, taken⟩
    obtain ⟨name, rfl⟩ : ∃ name : String, name.toList = word := ⟨_, String.toList_ofList⟩
    split at taken
    · rename_i known found same
      obtain ⟨_, member⟩ := (find?_name_iff distinct).mp same
      obtain ⟨rfl, rfl⟩ := takes_pure.mp taken
      exact ⟨name, characters, member⟩
    · exact absurd taken not_takes_fail
  · rintro ⟨name, characters, member⟩
    refine ⟨_, _, characters, ?_⟩
    rw [(find?_name_iff distinct).mpr ⟨rfl, member⟩]
    exact takes_pure.mpr ⟨rfl, rfl⟩

theorem value_mark_chosen_iff :
    (∃ form, Grammar.Value Pieces ('"' :: text) form rest ∧ Chosen choices form value) ↔
      ∃ name, Grammar.Characters text name.toList rest ∧ (name, value) ∈ choices := by
  simp only [Grammar.value_mark_iff, Grammar.characters_iff_decodes]
  constructor
  · rintro ⟨_, ⟨pieces, rfl, spelt⟩, isChosen⟩
    cases isChosen with
    | name decodes known => exact ⟨_, ⟨pieces, spelt, decodes⟩, known⟩
  · rintro ⟨name, ⟨pieces, spelt, decodes⟩, known⟩
    exact ⟨_, ⟨pieces, rfl, spelt⟩, .name decodes known⟩

/-- The object form of a choice has one member, whose value is null. -/
theorem value_brace_chosen_iff :
    (∃ form, Grammar.Value Pieces ('{' :: text) form rest ∧ Chosen choices form value) ↔
      ∃ later name behind bound null, afterBlanks text = '"' :: later ∧
        Grammar.Characters later name.toList behind ∧ (name, value) ∈ choices ∧
        afterBlanks behind = ':' :: bound ∧ Grammar.Value Pieces (afterBlanks bound) .null null ∧
        afterBlanks null = '}' :: rest := by
  simp only [Grammar.value_brace_iff]
  constructor
  · rintro ⟨_, ⟨rfl, _⟩ | ⟨entries, rfl, members⟩, isChosen⟩
    · cases isChosen
    · cases isChosen with
      | member decodes known =>
          generalize afterBlanks text = start at members ⊢
          cases members with
          | more _ _ none => cases none
          | last member closes =>
              cases member with
              | mk spelt colon isNull =>
                  have characters := Grammar.characters_iff_decodes.mpr ⟨_, spelt, decodes⟩
                  exact ⟨_, _, _, _, _, rfl, characters, known, colon, isNull, closes⟩
  · rintro ⟨later, name, behind, bound, null, mark, characters, known, colon, isNull, closes⟩
    obtain ⟨pieces, spelt, decodes⟩ := Grammar.characters_iff_decodes.mp characters
    have members : Grammar.Members Pieces (afterBlanks text) [(pieces, .null)] rest := by
      rw [mark]
      exact .last (.mk spelt colon isNull) closes
    exact ⟨_, .inr ⟨_, rfl, members⟩, .member decodes known⟩

/-- Behind the only member of an object there is its closing bracket. -/
theorem takes_closing {found : α} {atEnd other : Cause} :
    Takes (do
        match ← peekToken with
        | none => fail atEnd
        | some '}' =>
            drop
            return found
        | some _ => fail other) text value rest ↔
      found = value ∧ afterBlanks text = '}' :: rest := by
  rw [takes_peekToken_bind]
  cases afterBlanks text with
  | nil => simp
  | cons c text =>
      by_cases closes : c = '}'
      · simp [closes, and_comm]
      · simp [closes]

theorem takes_chosenMember (distinct : (choices.map (·.1)).Nodup) :
    Takes (chosenMember choices) text value rest ↔
      ∃ form, Grammar.Value Pieces ('{' :: text) form rest ∧ Chosen choices form value := by
  rw [value_brace_chosen_iff, chosenMember, takes_peekToken_bind]
  cases afterBlanks text with
  | nil => simp
  | cons c later =>
      by_cases mark : c = '"'
      · subst mark
        simp only [List.head?_cons, takes_drop_bind, List.tail_cons]
        rw [takes_bind]
        simp only [takes_chosen distinct, takes_colon_bind, takes_null_bind]
        constructor
        · rintro ⟨_, behind, ⟨name, characters, known⟩, bound, colon, null, isNull, taken⟩
          obtain ⟨rfl, closes⟩ := takes_closing.mp taken
          exact ⟨_, name, behind, bound, null, rfl, characters, known, colon, isNull, closes⟩
        · rintro ⟨_, name, behind, bound, null, same, characters, known, colon, isNull, closes⟩
          cases same
          exact ⟨_, behind, ⟨name, characters, known⟩, bound, colon, null, isNull,
            takes_closing.mpr ⟨rfl, closes⟩⟩
      · by_cases closes : c = '}'
        · simp [closes]
        · simp [mark]

theorem accepts_choice (distinct : (choices.map (·.1)).Nodup) :
    (choice choices).Accepts (Chosen choices) := by
  intro text value rest
  rw [choice, takes_peekToken_bind]
  cases afterBlanks text with
  | nil => simp
  | cons c text =>
      by_cases isName : c = '"'
      · simp [isName, takes_chosen distinct, value_mark_chosen_iff]
      by_cases isObject : c = '{'
      · simp [isObject, takes_chosenMember distinct]
      have neither :
          ¬ ∃ form, Grammar.Value Pieces (c :: text) form rest ∧ Chosen choices form value := by
        rintro ⟨form, found, isChosen⟩
        cases isChosen with
        | name =>
            cases found
            exact isName rfl
        | member =>
            cases found
            exact isObject rfl
      rw [iff_false_right neither]
      simp

theorem takes_finish {nothing : Unit} :
    Takes finish text nothing rest ↔ afterBlanks text = [] ∧ rest = [] := by
  rw [finish, takes_peekToken_bind]
  cases afterBlanks text with
  | nil => simp [eq_comm]
  | cons c text => simp

/-- A whole text is read just if it is a value that the reader accepts, with blanks around it. -/
theorem run_eq_ok_iff {reader : Reader α} {Stands : Form → α → Prop}
    (accepts : reader.Accepts Stands) :
    reader.run text = .ok value ↔ ∃ form, Spelt.Document text form ∧ Stands form value := by
  have whole : reader.run text = .ok value ↔
      ∃ behind, Takes (do let value ← reader; finish; return value) text value behind := by
    rw [run]
    split
    · rename_i found behind done
      constructor
      · rintro ⟨⟩
        exact ⟨behind, done⟩
      · rintro ⟨_, done'⟩
        cases done.symm.trans done'
        rfl
    · rename_i failure fails
      refine iff_of_false (by simp) ?_
      rintro ⟨_, done⟩
      cases fails.symm.trans done
  rw [whole]
  simp only [takes_bind, accepts _ _ _, takes_finish, takes_pure]
  constructor
  · rintro ⟨_, found, behind, ⟨form, isValue, stands⟩, _, _, ⟨blanks, _⟩, rfl, _⟩
    exact ⟨form, ⟨behind, isValue, blanks⟩, stands⟩
  · rintro ⟨form, ⟨behind, isValue, blanks⟩, stands⟩
    exact ⟨[], value, behind, ⟨form, isValue, stands⟩, (), [], ⟨blanks, rfl⟩, rfl, rfl⟩

end Reader

end TokenStream.Json
