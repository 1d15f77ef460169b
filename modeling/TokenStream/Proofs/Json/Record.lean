import TokenStream.Proofs.Json.Bindings

namespace TokenStream.Json

open Grammar (afterBlanks)
open Spelt (Pieces)

variable {σ : Type} {slots : List (Slot σ)} {record after : σ} {text rest : List Char}

/-- The member at the front of the text and what it does to the record. -/
def MemberFills (slots : List (Slot σ)) (text : List Char) (record after : σ)
    (rest : List Char) : Prop :=
  ∃ entry name form, Grammar.Member Pieces text entry rest ∧ Decodes entry (name, form) ∧
    Fills slots record name form after

/-- The members at the front of the text and what they do to the record. -/
def MembersFill (slots : List (Slot σ)) (text : List Char) (record after : σ)
    (rest : List Char) : Prop :=
  ∃ entries bindings, Grammar.Members Pieces text entries rest ∧
    List.Forall₂ Decodes entries bindings ∧
    Filled slots bindings record after

theorem membersFill_iff :
    MembersFill slots text record after rest ↔
      ∃ middle behind, MemberFills slots text record middle behind ∧
        (afterBlanks behind = '}' :: rest ∧ middle = after ∨
          ∃ later, afterBlanks behind = ',' :: later ∧
            MembersFill slots (afterBlanks later) middle after rest) := by
  constructor
  · rintro ⟨entries, bindings, isMembers, decode, filled⟩
    cases isMembers with
    | last isMember closes =>
        obtain ⟨⟨name, form⟩, bindings, decodes, none, rfl⟩ := List.forall₂_cons_left_iff.mp decode
        cases none
        obtain ⟨middle, fills, rfl⟩ := filled
        exact ⟨_, _, ⟨_, name, form, isMember, decodes, fills⟩, .inl ⟨closes, rfl⟩⟩
    | more isMember comma isMembers =>
        obtain ⟨⟨name, form⟩, bindings, decodes, decodeMore, rfl⟩ :=
          List.forall₂_cons_left_iff.mp decode
        obtain ⟨middle, fills, filled⟩ := filled
        exact ⟨_, _, ⟨_, name, form, isMember, decodes, fills⟩,
          .inr ⟨_, comma, _, _, isMembers, decodeMore, filled⟩⟩
  · rintro ⟨middle, behind, ⟨entry, name, form, isMember, decodes, fills⟩,
      ⟨closes, rfl⟩ | ⟨later, comma, entries, bindings, isMembers, decode, filled⟩⟩
    · exact ⟨_, [(name, form)], .last isMember closes, .cons decodes .nil, _, fills, rfl⟩
    · exact ⟨_, (name, form) :: bindings, .more isMember comma isMembers, .cons decodes decode,
        _, fills, filled⟩

theorem not_membersFill_of_not_name (noName : ∀ later, text ≠ '"' :: later) :
    ¬ MembersFill slots text record after rest := by
  intro fills
  obtain ⟨_, _, ⟨_, _, _, isMember, _⟩, _⟩ := membersFill_iff.mp fills
  cases isMember
  exact noName _ rfl

/-- The items at the front of the text and what they do to the record. -/
def ItemsFill (slots : List (Slot σ)) (text : List Char) (record after : σ)
    (rest : List Char) : Prop :=
  ∃ forms, Grammar.Items Pieces text forms rest ∧ Listed slots forms record after

/-- What follows an item of a record, and what it does to the record. -/
def LaterFill (slots : List (Slot σ)) (text : List Char) (record after : σ)
    (rest : List Char) : Prop :=
  afterBlanks text = ']' :: rest ∧ record = after ∨
    ∃ later, afterBlanks text = ',' :: later ∧
      ItemsFill slots (afterBlanks later) record after rest

theorem not_itemsFill_nil : ¬ ItemsFill [] text record after rest := by
  rintro ⟨forms, isItems, listed⟩
  cases isItems <;> exact listed

theorem itemsFill_cons_iff {slot : Slot σ} :
    ItemsFill (slot :: slots) text record after rest ↔
      ∃ form value behind, Grammar.Value Pieces text form behind ∧ slot.Stands form value ∧
        LaterFill slots behind (slot.put record value) after rest := by
  constructor
  · rintro ⟨forms, isItems, listed⟩
    cases isItems with
    | last found closes =>
        obtain ⟨value, stands, listed⟩ := listed
        refine ⟨_, value, _, found, stands, .inl ⟨closes, ?_⟩⟩
        cases slots <;> exact listed
    | more found comma isItems =>
        obtain ⟨value, stands, listed⟩ := listed
        exact ⟨_, value, _, found, stands, .inr ⟨_, comma, _, isItems, listed⟩⟩
  · rintro ⟨form, value, behind, found, stands,
      ⟨closes, same⟩ | ⟨later, comma, forms, isItems, listed⟩⟩
    · refine ⟨[form], .last found closes, value, stands, ?_⟩
      cases slots <;> exact same
    · exact ⟨form :: forms, .more found comma isItems, value, stands, listed⟩

theorem ItemsFill.item (fills : ItemsFill slots text record after rest) :
    ∃ behind, Spelt.Item .array text behind := by
  obtain ⟨forms, isItems, _⟩ := fills
  cases isItems with
  | last found | more found => exact ⟨_, _, found⟩

@[simp]
theorem not_itemsFill_end : ¬ ItemsFill slots [] record after rest := by
  intro fills
  obtain ⟨_, isItems, _⟩ := fills
  exact isItems.ne_nil rfl

@[simp]
theorem not_itemsFill_closing : ¬ ItemsFill slots (']' :: text) record after rest := by
  intro fills
  obtain ⟨_, item⟩ := fills.item
  exact Spelt.not_item_closing item

namespace Reader

@[simp]
theorem not_takes_repeated {name : String} : ¬ Takes (repeated name) text record rest := by
  rw [repeated, takes_peekToken_bind]
  split <;> simp

theorem find?_field (apart : Apart slots) {slot : Slot σ} (known : slot ∈ slots) :
    ((slots.map Slot.field).find? fun field => field.name.toList == slot.name.toList) =
      some slot.field := by
  cases found : (slots.map Slot.field).find? fun field => field.name.toList == slot.name.toList with
  | none =>
      have unknown := List.find?_eq_none.mp found slot.field (List.mem_map_of_mem known)
      exact absurd (beq_self_eq_true _) unknown
  | some field =>
      obtain ⟨other, known', rfl⟩ := List.mem_map.mp (List.mem_of_find?_eq_some found)
      have same := List.find?_some found
      rw [beq_iff_eq, String.toList_inj] at same
      rw [apart.eq_of_name known' known same]

theorem find?_unknown {name : String} (unknown : ∀ slot ∈ slots, slot.name ≠ name) :
    ((slots.map Slot.field).find? fun field => field.name.toList == name.toList) = none := by
  rw [List.find?_eq_none]
  intro field member
  obtain ⟨slot, known, rfl⟩ := List.mem_map.mp member
  have different : slot.field.name ≠ name := unknown slot known
  simpa [String.toList_inj] using different

theorem takes_member (apart : Apart slots) :
    Takes (member (slots.map Slot.field) record) text after rest ↔
      ∃ name form behind bound, Grammar.Characters text name.toList behind ∧
        afterBlanks behind = ':' :: bound ∧ Grammar.Value Pieces (afterBlanks bound) form rest ∧
        Fills slots record name form after := by
  rw [member, takes_string_bind]
  constructor
  · rintro ⟨word, behind, characters, taken⟩
    obtain ⟨name, rfl⟩ : ∃ name : String, name.toList = word := ⟨_, String.toList_ofList⟩
    by_cases isKnown : ∃ slot ∈ slots, slot.name = name
    · obtain ⟨slot, known, rfl⟩ := isKnown
      rw [find?_field apart known] at taken
      simp only [slot.given_eq] at taken
      cases first : slot.get record with
      | some value => simp [first] at taken
      | none =>
          simp only [first, Option.isSome_none, Bool.false_eq_true, ↓reduceIte,
            takes_colon_bind, slot.accepts _ _ _ _] at taken
          obtain ⟨bound, colon, form, found, value, stands, rfl⟩ := taken
          exact ⟨_, form, behind, bound, characters, colon, found, .field known rfl first stands⟩
    · have unknown : ∀ slot ∈ slots, slot.name ≠ name := fun slot known named =>
        isKnown ⟨slot, known, named⟩
      rw [find?_unknown unknown] at taken
      simp only [takes_colon_bind, takes_skipValue_bind, takes_pure] at taken
      obtain ⟨bound, colon, form, _, found, rfl, rfl⟩ := taken
      exact ⟨name, form, behind, bound, characters, colon, found, .other unknown⟩
  · rintro ⟨name, form, behind, bound, characters, colon, found, fills⟩
    refine ⟨_, _, characters, ?_⟩
    cases fills with
    | other unknown =>
        rw [find?_unknown unknown]
        simp only [takes_colon_bind, takes_skipValue_bind, takes_pure]
        exact ⟨bound, colon, form, rest, found, trivial, rfl⟩
    | @field slot value known named first stands =>
        subst named
        rw [find?_field apart known]
        simp only [slot.given_eq, first, Option.isSome_none, Bool.false_eq_true, ↓reduceIte,
          takes_colon_bind, slot.accepts _ _ _ _]
        exact ⟨bound, colon, form, found, value, stands, rfl⟩

/-- A member that is taken is spelt and decodes, and does what its binding does. -/
theorem takes_member_iff (apart : Apart slots) :
    Takes (member (slots.map Slot.field) record) text after rest ↔
      MemberFills slots ('"' :: text) record after rest := by
  rw [takes_member apart]
  constructor
  · rintro ⟨name, form, behind, bound, characters, colon, found, fills⟩
    obtain ⟨pieces, spelt, decodes⟩ := Grammar.characters_iff_decodes.mp characters
    exact ⟨_, name, form, .mk spelt colon found, ⟨decodes, rfl⟩, fills⟩
  · rintro ⟨entry, name, form, isMember, ⟨decodes, rfl⟩, fills⟩
    cases isMember with
    | mk spelt colon found =>
        have characters := Grammar.characters_iff_decodes.mpr ⟨_, spelt, decodes⟩
        exact ⟨name, _, _, _, characters, colon, found, fills⟩

/-- Behind the first member, its record goes through the others. -/
theorem membersFill_of_member (apart : Apart slots) {middle : σ} {behind : List Char}
    (taken : member (slots.map Slot.field) record text = .ok (middle, behind)) :
    MembersFill slots ('"' :: text) record after rest ↔
      afterBlanks behind = '}' :: rest ∧ middle = after ∨
        ∃ later, afterBlanks behind = ',' :: later ∧
          MembersFill slots (afterBlanks later) middle after rest := by
  have first (middle behind) : MemberFills slots ('"' :: text) record middle behind ↔
      member (slots.map Slot.field) record text = .ok (middle, behind) :=
    (takes_member_iff apart).symm
  rw [membersFill_iff]
  simp [first, taken]

theorem not_membersFill_of_fault (apart : Apart slots) {failure : Failure}
    (fails : member (slots.map Slot.field) record text = .error failure) :
    ¬ MembersFill slots ('"' :: text) record after rest := by
  rw [membersFill_iff]
  rintro ⟨middle, behind, fills, _⟩
  cases fails.symm.trans ((takes_member_iff apart).mpr fills)

/-- Members are taken one after the other, as the bindings that they are. -/
theorem members_eq_ok_iff (apart : Apart slots) :
    members (slots.map Slot.field) record text = .ok (after, rest) ↔
      MembersFill slots ('"' :: text) record after rest := by
  -- The cases tell what stands behind the first member, and from the fourth on behind its comma.
  fun_induction members (slots.map Slot.field) record text with
  | case1 record text failure fails =>
      exact iff_of_false (by simp) (not_membersFill_of_fault apart fails)
  | case2 record text middle behind taken found =>
      have blanks : afterBlanks behind = [] := found
      simp [membersFill_of_member apart taken, blanks, failAt]
  | case3 record text middle behind taken later closes =>
      have blanks : afterBlanks behind = '}' :: later := closes
      simp [membersFill_of_member apart taken, blanks, and_comm]
  | case4 record text middle behind taken later comma found =>
      have blanks : afterBlanks behind = ',' :: later := comma
      have blanks' : afterBlanks later = [] := found
      have none : ¬ MembersFill slots [] middle after rest :=
        not_membersFill_of_not_name (by simp)
      simp [membersFill_of_member apart taken, blanks, blanks', none, failAt]
  | case5 record text middle behind taken later comma name next ih =>
      have blanks : afterBlanks behind = ',' :: later := comma
      have blanks' : afterBlanks later = '"' :: name := next
      simp [membersFill_of_member apart taken, blanks, blanks', ih]
  | case6 record text middle behind taken later comma name next =>
      have blanks : afterBlanks behind = ',' :: later := comma
      have blanks' : afterBlanks later = '}' :: name := next
      have none : ¬ MembersFill slots ('}' :: name) middle after rest :=
        not_membersFill_of_not_name (by simp)
      simp [membersFill_of_member apart taken, blanks, blanks', none, failAt]
  | case7 record text middle behind taken later comma _ noName _ =>
      have blanks : afterBlanks behind = ',' :: later := comma
      have none : ¬ MembersFill slots (afterBlanks later) middle after rest :=
        not_membersFill_of_not_name noName
      simp [membersFill_of_member apart taken, blanks, none, failAt]
  | case8 record text middle behind taken _ noEnd noComma =>
      refine iff_of_false (by simp [failAt]) ?_
      rw [membersFill_of_member apart taken]
      rintro (⟨closes, _⟩ | ⟨later, comma, _⟩)
      · exact noEnd _ closes
      · exact noComma _ comma

/-- The object form of a record, from behind its opening bracket. -/
theorem takes_object (apart : Apart slots) :
    Takes (object (slots.map Slot.field) record) text after rest ↔
      afterBlanks text = '}' :: rest ∧ record = after ∨
        MembersFill slots (afterBlanks text) record after rest := by
  rw [object, takes_peekToken_bind]
  by_cases mark : (afterBlanks text).head? = some '"'
  · obtain ⟨later, starts⟩ := List.head?_eq_some_iff.mp mark
    simp only [starts, List.head?_cons, takes_drop_bind, List.tail_cons]
    rw [Takes, members_eq_ok_iff apart]
    simp
  · have none : ¬ MembersFill slots (afterBlanks text) record after rest := by
      apply not_membersFill_of_not_name
      intro later starts
      exact mark (by rw [starts]; rfl)
    cases starts : afterBlanks text with
    | nil =>
        rw [starts] at none
        simp [none]
    | cons c later =>
        rw [starts] at none mark
        have noMark : c ≠ '"' := by simpa using mark
        by_cases closes : c = '}'
        · subst closes
          simp [none, and_comm]
        · simp [none, closes]

theorem takes_closeArray :
    Takes (closeArray record) text after rest ↔
      afterBlanks text = ']' :: rest ∧ record = after := by
  rw [closeArray, takes_peekToken_bind]
  cases afterBlanks text with
  | nil => simp
  | cons c later =>
      by_cases closes : c = ']'
      · simp [closes, and_comm]
      by_cases comma : c = ','
      · simp only [comma, List.head?_cons, takes_drop_bind, takes_peekToken_bind]
        split <;> simp
      · simp [closes]

/-- The next item is taken into the first field, and the others are left to the later ones. -/
theorem takes_item {slot : Slot σ}
    (more : ∀ {record text}, Takes (laterItems (slots.map Slot.field) record) text after rest ↔
      LaterFill slots text record after rest) :
    Takes (do laterItems (slots.map Slot.field) (← slot.field.read record)) (afterBlanks text)
        after rest ↔
      ItemsFill (slot :: slots) (afterBlanks text) record after rest := by
  rw [takes_bind, itemsFill_cons_iff]
  simp only [slot.accepts _ _ _ _, afterBlanks_afterBlanks, more]
  constructor
  · rintro ⟨_, behind, ⟨form, found, value, stands, rfl⟩, later⟩
    exact ⟨form, value, behind, found, stands, later⟩
  · rintro ⟨form, value, behind, found, stands, later⟩
    exact ⟨_, behind, ⟨form, found, value, stands, rfl⟩, later⟩

theorem takes_laterItems :
    Takes (laterItems (slots.map Slot.field) record) text after rest ↔
      LaterFill slots text record after rest := by
  induction slots generalizing record text with
  | nil =>
      rw [List.map_nil, laterItems, takes_closeArray]
      simp [LaterFill, not_itemsFill_nil]
  | cons slot slots ih =>
      rw [List.map_cons, laterItems, takes_peekToken_bind, LaterFill]
      cases afterBlanks text with
      | nil => simp
      | cons c later =>
          by_cases closes : c = ']'
          · simp [closes, and_comm]
          by_cases comma : c = ','
          · subst comma
            simp only [List.head?_cons, takes_drop_bind, List.tail_cons, takes_peekToken_bind]
            have item : Takes (do laterItems (slots.map Slot.field) (← slot.field.read record))
                (afterBlanks later) after rest ↔ _ := takes_item ih
            cases starts : afterBlanks later with
            | nil => simp [starts]
            | cons c' later' =>
                by_cases early : c' = ']'
                · simp [early, starts]
                · rw [starts] at item
                  simp [starts, item]
          · simp [closes, comma]

theorem takes_items :
    Takes (items (slots.map Slot.field) record) text after rest ↔
      afterBlanks text = ']' :: rest ∧ record = after ∨
        ItemsFill slots (afterBlanks text) record after rest := by
  cases slots with
  | nil =>
      rw [List.map_nil, items, takes_closeArray]
      simp [not_itemsFill_nil]
  | cons slot slots =>
      have item : Takes (do laterItems (slots.map Slot.field) (← slot.field.read record))
          (afterBlanks text) after rest ↔ _ := takes_item takes_laterItems
      rw [List.map_cons, items, takes_peekToken_bind]
      cases starts : afterBlanks text with
      | nil => simp
      | cons c later =>
          by_cases closes : c = ']'
          · simp [closes, and_comm]
          · rw [starts] at item
            simp [closes, item]

end Reader

theorem value_brace_bindings_iff {names : List String} :
    (∃ form, Grammar.Value Pieces ('{' :: text) form rest ∧
      ∃ bindings, Bindings names form bindings ∧ Filled slots bindings record after) ↔
      afterBlanks text = '}' :: rest ∧ record = after ∨
        MembersFill slots (afterBlanks text) record after rest := by
  simp only [Grammar.value_brace_iff]
  constructor
  · rintro ⟨_, ⟨rfl, closes⟩ | ⟨entries, rfl, isMembers⟩, bindings, binds, filled⟩
    · cases binds with
      | object decode =>
          cases decode
          exact .inl ⟨closes, filled⟩
    · cases binds with
      | object decode => exact .inr ⟨entries, bindings, isMembers, decode, filled⟩
  · rintro (⟨closes, rfl⟩ | ⟨entries, bindings, isMembers, decode, filled⟩)
    · exact ⟨_, .inl ⟨rfl, closes⟩, [], .object .nil, rfl⟩
    · exact ⟨_, .inr ⟨entries, rfl, isMembers⟩, bindings, .object decode, filled⟩

theorem value_bracket_bindings_iff (apart : Apart slots)
    (empty : ∀ slot ∈ slots, slot.get record = none) :
    (∃ form, Grammar.Value Pieces ('[' :: text) form rest ∧
      ∃ bindings, Bindings (slots.map Slot.name) form bindings ∧
        Filled slots bindings record after) ↔
      afterBlanks text = ']' :: rest ∧ record = after ∨
        ItemsFill slots (afterBlanks text) record after rest := by
  have listed (forms) : Listed slots forms record after ↔ _ :=
    listed_iff apart (List.Sublist.refl slots) empty
  simp only [Grammar.value_bracket_iff]
  constructor
  · rintro ⟨_, ⟨rfl, closes⟩ | ⟨forms, rfl, isItems⟩, bindings, binds, filled⟩
    · cases binds with
      | array => exact .inl ⟨closes, by simpa [Filled] using filled⟩
    · cases binds with
      | array fits =>
          rw [List.length_map] at fits
          exact .inr ⟨forms, isItems, (listed forms).mpr ⟨fits, filled⟩⟩
  · rintro (⟨closes, rfl⟩ | ⟨forms, isItems, isListed⟩)
    · exact ⟨_, .inl ⟨rfl, closes⟩, _, .array (Nat.zero_le _), by simp [Filled]⟩
    · obtain ⟨fits, filled⟩ := (listed forms).mp isListed
      exact ⟨_, .inr ⟨forms, rfl, isItems⟩, _, .array (by simpa using fits), filled⟩

/-- A record reader accepts an object or an array that binds each field at most once, in forms that
the field accepts. -/
theorem accepts_record (apart : Apart slots) (expected : String)
    (empty : ∀ slot ∈ slots, slot.get record = none) :
    (Reader.record expected (slots.map Slot.field) record).Accepts fun form after =>
      ∃ bindings, Bindings (slots.map Slot.name) form bindings ∧
        ∀ slot ∈ slots, AtMostOnce slot.Stands (bound slot.name bindings) (slot.get after) := by
  intro text after rest
  simp only [← filled_empty_iff apart empty]
  rw [Reader.record, Reader.takes_peekToken_bind]
  cases afterBlanks text with
  | nil => simp
  | cons c later =>
      by_cases isObject : c = '{'
      · subst isObject
        simp only [List.head?_cons, Reader.takes_drop_bind, List.tail_cons,
          Reader.takes_object apart, value_brace_bindings_iff]
      by_cases isArray : c = '['
      · subst isArray
        simp only [List.head?_cons, Reader.takes_drop_bind, List.tail_cons,
          Reader.takes_items, value_bracket_bindings_iff apart empty]
      have neither : ¬ ∃ form, Grammar.Value Pieces (c :: later) form rest ∧
          ∃ bindings, Bindings (slots.map Slot.name) form bindings ∧
            Filled slots bindings record after := by
        rintro ⟨form, found, bindings, binds, _⟩
        cases binds with
        | object =>
            cases found <;> exact isObject rfl
        | array =>
            cases found <;> exact isArray rfl
      rw [iff_false_right neither]
      simp

end TokenStream.Json
