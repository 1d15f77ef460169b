import Mathlib.Data.List.Forall2
import Mathlib.Data.List.Nodup
import TokenStream.Proofs.Json.Shape

namespace TokenStream.Json

/-! What records are filled with.

An object and an array both bind names to forms (`Bindings`), and what a record stands
for is said by what its names are bound to.  A record is filled one binding after the
other (`Filled`), which comes to the same: each field is filled at most once, in
whatever order (`filled_iff`).
-/

/-- A member binds the name that it decodes to. -/
def Decodes (member : List Piece × Form) (binding : String × Form) : Prop :=
  decode? member.1 = some binding.1.toList ∧ member.2 = binding.2

/-- What a record binds its names to.  The items of an array come under the names in order. -/
inductive Bindings (names : List String) : Form → List (String × Form) → Prop
  | object (decode : List.Forall₂ Decodes members bindings) :
      Bindings names (.object members) bindings
  | array (fits : items.length ≤ names.length) : Bindings names (.array items) (names.zip items)

theorem rightUnique_decodes : Relator.RightUnique Decodes := by
  intro member first second decodes decodes'
  have name := Option.some.inj (decodes.1.symm.trans decodes'.1)
  exact Prod.ext (String.toList_inj.mp name) (decodes.2.symm.trans decodes'.2)

theorem Bindings.unique {names : List String} {form : Form} {first second : List (String × Form)}
    (binds : Bindings names form first) (binds' : Bindings names form second) : first = second := by
  cases binds with
  | object decode =>
      cases binds' with
      | object decode' => exact List.right_unique_forall₂' rightUnique_decodes decode decode'
  | array =>
      cases binds' with
      | array => rfl

def bound (name : String) (bindings : List (String × Form)) : List Form :=
  (bindings.filter (·.1 == name)).map (·.2)

/-- The form is a record that binds the name to another form. -/
def Binds (names : List String) (form : Form) (name : String) (inner : Form) : Prop :=
  ∃ bindings, Bindings names form bindings ∧ inner ∈ bound name bindings

/-- There is no form, and no value, or one form that stands for the value. -/
inductive AtMostOnce (Stands : Form → α → Prop) : List Form → Option α → Prop
  | absent : AtMostOnce Stands [] none
  | once (stands : Stands form value) : AtMostOnce Stands [form] (some value)

theorem Binds.stands {α : Type} {names : List String} {form inner : Form} {name : String}
    {bindings : List (String × Form)} {Stands : Form → α → Prop} {value? : Option α}
    (found : Binds names form name inner) (binds : Bindings names form bindings)
    (once : AtMostOnce Stands (bound name bindings) value?) :
    ∃ value, value? = some value ∧ Stands inner value := by
  obtain ⟨_, binds', member⟩ := found
  rw [binds'.unique binds] at member
  generalize bound name bindings = forms at once member
  cases once with
  | absent => cases member
  | once stands =>
      rw [List.mem_singleton.mp member]
      exact ⟨_, rfl, stands⟩

/-- A field, the place in the record that it fills, and the forms that it accepts. -/
structure Slot (σ : Type) where
  field : Field σ
  Value : Type
  get : σ → Option Value
  put : σ → Value → σ
  Stands : Form → Value → Prop
  given_eq : ∀ record, field.given record = (get record).isSome
  accepts : ∀ record, (field.read record).Accepts fun form after =>
    ∃ value, Stands form value ∧ put record value = after
  get_put : ∀ record value, get (put record value) = some value

def Slot.name (slot : Slot σ) : String :=
  slot.field.name

/-- The fields have different names and places, and make up the whole record. -/
structure Apart (slots : List (Slot σ)) : Prop where
  names : (slots.map Slot.name).Nodup
  others : ∀ slot ∈ slots, ∀ other ∈ slots, slot.name ≠ other.name →
    ∀ record value, slot.get (other.put record value) = slot.get record
  whole : ∀ record after, (∀ slot ∈ slots, slot.get record = slot.get after) → record = after

variable {σ : Type} {slots : List (Slot σ)} {record after : σ}

theorem Apart.eq_of_name (apart : Apart slots) {slot other : Slot σ} (known : slot ∈ slots)
    (known' : other ∈ slots) (same : slot.name = other.name) : slot = other :=
  List.inj_on_of_nodup_map apart.names known known' same

/-- What one binding does to a record that is being filled. -/
inductive Fills (slots : List (Slot σ)) (record : σ) (name : String) (form : Form) : σ → Prop
  | other (unknown : ∀ slot ∈ slots, slot.name ≠ name) : Fills slots record name form record
  | field {slot : Slot σ} {value : slot.Value} (known : slot ∈ slots) (named : slot.name = name)
      (first : slot.get record = none) (stands : slot.Stands form value) :
      Fills slots record name form (slot.put record value)

def Filled (slots : List (Slot σ)) : List (String × Form) → σ → σ → Prop
  | [], record, after => record = after
  | (name, form) :: bindings, record, after =>
      ∃ middle, Fills slots record name form middle ∧ Filled slots bindings middle after

/-- Items fill the fields in order. -/
def Listed : List (Slot σ) → List Form → σ → σ → Prop
  | _, [], record, after => record = after
  | [], _ :: _, _, _ => False
  | slot :: slots, form :: forms, record, after =>
      ∃ value, slot.Stands form value ∧ Listed slots forms (slot.put record value) after

@[simp]
theorem bound_nil (name : String) : bound name [] = [] :=
  rfl

@[simp]
theorem bound_cons_same {name : String} {form : Form} {bindings : List (String × Form)} :
    bound name ((name, form) :: bindings) = form :: bound name bindings := by
  simp [bound]

theorem bound_cons_other {name other : String} {form : Form} {bindings : List (String × Form)}
    (different : other ≠ name) :
    bound name ((other, form) :: bindings) = bound name bindings := by
  simp [bound, different]

/-- An empty place is filled at most once, and a filled one is left alone. -/
def Keeps (Stands : Form → α → Prop) (forms : List Form) (after : Option α) : Option α → Prop
  | none => AtMostOnce Stands forms after
  | some value => forms = [] ∧ after = some value

section Keeps

variable {α : Type} {Stands : Form → α → Prop} {before last : Option α} {form : Form}
variable {forms : List Form}

theorem keeps_nil_iff : Keeps Stands [] last before ↔ before = last := by
  cases before with
  | none =>
      constructor
      · intro once
        cases once
        rfl
      · rintro rfl
        exact .absent
  | some value => simp [Keeps, eq_comm]

theorem keeps_cons_iff :
    Keeps Stands (form :: forms) last before ↔
      before = none ∧ ∃ value, Stands form value ∧ Keeps Stands forms last (some value) := by
  cases before with
  | some value => simp [Keeps]
  | none =>
      constructor
      · intro once
        cases once with
        | once stands => exact ⟨rfl, _, stands, rfl, rfl⟩
      · rintro ⟨_, value, stands, rfl, rfl⟩
        exact .once stands

end Keeps

variable {bindings : List (String × Form)} {name : String} {form : Form} {middle : σ}

theorem fills_known_iff (apart : Apart slots) {slot : Slot σ} (known : slot ∈ slots) :
    Fills slots record slot.name form middle ↔
      slot.get record = none ∧
        ∃ value, slot.Stands form value ∧ slot.put record value = middle := by
  constructor
  · intro fills
    cases fills with
    | other unknown => exact absurd rfl (unknown slot known)
    | @field other value known' named first stands =>
        obtain rfl := apart.eq_of_name known' known named
        exact ⟨first, value, stands, rfl⟩
  · rintro ⟨first, value, stands, rfl⟩
    exact .field known rfl first stands

theorem fills_unknown_iff (unknown : ∀ slot ∈ slots, slot.name ≠ name) :
    Fills slots record name form middle ↔ record = middle := by
  constructor
  · intro fills
    cases fills with
    | other => rfl
    | field known named => exact absurd named (unknown _ known)
  · rintro rfl
    exact .other unknown

/-- A record is filled by the bindings just if each place goes through what its name is bound to. -/
theorem filled_iff (apart : Apart slots) :
    Filled slots bindings record after ↔
      ∀ slot ∈ slots,
        Keeps slot.Stands (bound slot.name bindings) (slot.get after) (slot.get record) := by
  induction bindings generalizing record with
  | nil =>
      simp only [Filled, bound_nil, keeps_nil_iff]
      constructor
      · rintro rfl slot _
        rfl
      · exact apart.whole record after
  | cons binding bindings ih =>
      obtain ⟨name, form⟩ := binding
      simp only [Filled, ih]
      by_cases isKnown : ∃ slot ∈ slots, slot.name = name
      · obtain ⟨slot, known, rfl⟩ := isKnown
        simp only [fills_known_iff apart known]
        -- The place of the name takes the form, and all others are left as they are.
        constructor
        · rintro ⟨_, ⟨first, value, stands, rfl⟩, keeps⟩ other known'
          by_cases same : other.name = slot.name
          · obtain rfl := apart.eq_of_name known' known same
            have kept := keeps other known'
            rw [other.get_put] at kept
            rw [bound_cons_same, keeps_cons_iff]
            exact ⟨first, value, stands, kept⟩
          · have kept := keeps other known'
            rw [apart.others other known' slot known same] at kept
            rwa [bound_cons_other (Ne.symm same)]
        · intro keeps
          have kept := keeps slot known
          rw [bound_cons_same, keeps_cons_iff] at kept
          obtain ⟨first, value, stands, kept⟩ := kept
          refine ⟨_, ⟨first, value, stands, rfl⟩, fun other known' => ?_⟩
          by_cases same : other.name = slot.name
          · obtain rfl := apart.eq_of_name known' known same
            rw [other.get_put]
            exact kept
          · have kept' := keeps other known'
            rw [bound_cons_other (Ne.symm same)] at kept'
            rw [apart.others other known' slot known same]
            exact kept'
      · have unknown : ∀ slot ∈ slots, slot.name ≠ name := fun slot known named =>
          isKnown ⟨slot, known, named⟩
        simp only [fills_unknown_iff unknown, exists_eq_left']
        apply forall₂_congr
        intro slot known
        rw [bound_cons_other (Ne.symm (unknown slot known))]

/-- Items fill a record as the bindings of the names in order would. -/
theorem listed_iff (apart : Apart slots) {forms : List Form} {later : List (Slot σ)}
    (among : later.Sublist slots) (empty : ∀ slot ∈ later, slot.get record = none) :
    Listed later forms record after ↔
      forms.length ≤ later.length ∧
        Filled slots ((later.map Slot.name).zip forms) record after := by
  induction later generalizing forms record with
  | nil => cases forms <;> simp [Listed, Filled]
  | cons slot later ih =>
      cases forms with
      | nil => simp [Listed, Filled]
      | cons form forms =>
          have known : slot ∈ slots := among.subset List.mem_cons_self
          have new : slot.name ∉ later.map Slot.name :=
            (List.nodup_cons.mp ((among.map Slot.name).nodup apart.names)).1
          have empty' (value) : ∀ other ∈ later, other.get (slot.put record value) = none := by
            intro other member
            have different : other.name ≠ slot.name := fun same =>
              new (same ▸ List.mem_map_of_mem member)
            have known' : other ∈ slots := among.subset (List.mem_cons_of_mem _ member)
            rw [apart.others other known' slot known different]
            exact empty other (List.mem_cons_of_mem _ member)
          have among' : later.Sublist slots := (List.sublist_cons_self slot later).trans among
          simp only [Listed, List.map_cons, List.zip_cons_cons, Filled, fills_known_iff apart known,
            empty slot List.mem_cons_self, ih among' (empty' _)]
          constructor
          · rintro ⟨value, stands, fits, filled⟩
            exact ⟨Nat.succ_le_succ fits, _, ⟨trivial, value, stands, rfl⟩, filled⟩
          · rintro ⟨fits, _, ⟨_, value, stands, rfl⟩, filled⟩
            exact ⟨value, stands, Nat.le_of_succ_le_succ fits, filled⟩

theorem filled_empty_iff (apart : Apart slots) (empty : ∀ slot ∈ slots, slot.get record = none) :
    Filled slots bindings record after ↔
      ∀ slot ∈ slots, AtMostOnce slot.Stands (bound slot.name bindings) (slot.get after) := by
  rw [filled_iff apart]
  apply forall₂_congr
  intro slot known
  rw [empty slot known]
  exact Iff.rfl

end TokenStream.Json
