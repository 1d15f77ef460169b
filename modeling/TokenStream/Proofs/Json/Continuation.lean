import Mathlib.Data.List.Basic
import TokenStream.Proofs.Json.Shape

namespace TokenStream.Json

open Grammar (afterBlanks)

namespace Grammar

variable {text rest digits fraction : List Char} {value : Rat} {power : Int}

theorem ne_nil_of_afterBlanks (left : afterBlanks text ≠ []) : text ≠ [] := by
  intro nothing
  subst nothing
  exact left rfl

theorem afterBlanks_append_of_ne_nil (left : afterBlanks text ≠ []) (more : List Char) :
    afterBlanks (text ++ more) = afterBlanks text ++ more := by
  have found : (text.dropWhile Reader.isBlank).isEmpty = false :=
    List.isEmpty_eq_false_iff.mpr left
  rw [afterBlanks, List.dropWhile_append, found]
  rfl

theorem afterBlanks_append_of_found {c : Char} (found : afterBlanks text = c :: rest)
    (more : List Char) : afterBlanks (text ++ more) = c :: (rest ++ more) := by
  have left : afterBlanks text ≠ [] := by
    rw [found]
    exact List.cons_ne_nil c rest
  rw [afterBlanks_append_of_ne_nil left, found, List.cons_append]

theorem afterBlanks_eq_nil_iff : afterBlanks text = [] ↔ ∀ c ∈ text, Reader.isBlank c = true :=
  List.dropWhile_eq_nil_iff

theorem Digits.append (taken : Digits text digits rest) (left : rest ≠ []) (more : List Char) :
    Digits (text ++ more) digits (rest ++ more) where
  split := by rw [taken.split, List.append_assoc]
  nonempty := taken.nonempty
  digit := taken.digit
  stops := by
    rw [List.head?_append_of_ne_nil rest left]
    exact taken.stops

theorem Whole.append (taken : Whole text digits rest) (left : rest ≠ []) (more : List Char) :
    Whole (text ++ more) digits (rest ++ more) where
  toDigits := taken.toDigits.append left more
  leading := taken.leading

theorem Fraction.ne_nil (part : Fraction text fraction rest) (left : rest ≠ []) : text ≠ [] := by
  cases part with
  | absent => exact left
  | present => exact List.cons_ne_nil _ _

theorem Fraction.append (part : Fraction text fraction rest) (left : rest ≠ [])
    (more : List Char) : Fraction (text ++ more) fraction (rest ++ more) := by
  cases part with
  | absent noPoint =>
      apply Fraction.absent
      rw [List.head?_append_of_ne_nil text left]
      exact noPoint
  | present taken => exact .present (taken.append left more)

theorem Power.ne_nil (scale : Power text power rest) (left : rest ≠ []) : text ≠ [] := by
  cases scale with
  | absent => exact left
  | unsigned | plus | minus => exact List.cons_ne_nil _ _

theorem Power.append (scale : Power text power rest) (left : rest ≠ []) (more : List Char) :
    Power (text ++ more) power (rest ++ more) := by
  cases scale with
  | absent noMark =>
      apply Power.absent
      rw [List.head?_append_of_ne_nil text left]
      exact noMark
  | unsigned mark taken => exact .unsigned mark (taken.append left more)
  | plus mark taken => exact .plus mark (taken.append left more)
  | minus mark taken => exact .minus mark (taken.append left more)

theorem Unsigned.append (number : Unsigned text value rest) (left : rest ≠ [])
    (more : List Char) : Unsigned (text ++ more) value (rest ++ more) := by
  cases number with
  | mk whole part scale =>
      have behindFraction := scale.ne_nil left
      have behindWhole := part.ne_nil behindFraction
      exact .mk (whole.append behindWhole more) (part.append behindFraction more)
        (scale.append left more)

theorem Number.append (number : Number text value rest) (left : rest ≠ []) (more : List Char) :
    Number (text ++ more) value (rest ++ more) := by
  cases number with
  | positive number => exact .positive (number.append left more)
  | negative number => exact .negative (number.append left more)

end Grammar

namespace Spelt

theorem Pieces.append (spelt : Pieces text pieces rest) (more : List Char) :
    Pieces (text ++ more) pieces (rest ++ more) := by
  induction spelt with
  | close => exact .close
  | plain visible noMark noBackslash _ ih => exact .plain visible noMark noBackslash ih
  | escape known _ ih => exact .escape known ih
  | unit digits _ ih => exact .unit digits ih

/-- A form that is over at its last character, whatever follows. -/
def Closed (form : Form) : Prop :=
  ∀ number, form ≠ .number number

end Spelt

namespace Grammar

open Spelt (Pieces Closed)

mutual

theorem Value.append (value : Value Pieces text form rest) (apart : Closed form ∨ rest ≠ [])
    (more : List Char) : Value Pieces (text ++ more) form (rest ++ more) := by
  match value with
  | .null => exact .null
  | .true => exact .true
  | .false => exact .false
  | .number number =>
      exact .number (number.append (apart.resolve_left fun closed => closed _ rfl) more)
  | .string spelt => exact .string (spelt.append more)
  | .noItems closes => exact .noItems (afterBlanks_append_of_found closes more)
  | .array items =>
      have goesOn := items.append more
      rw [← afterBlanks_append_of_ne_nil items.ne_nil] at goesOn
      exact .array goesOn
  | .noMembers closes => exact .noMembers (afterBlanks_append_of_found closes more)
  | .object members =>
      have goesOn := members.append more
      rw [← afterBlanks_append_of_ne_nil members.ne_nil] at goesOn
      exact .object goesOn
termination_by structural value

theorem Items.append (items : Items Pieces text forms rest) (more : List Char) :
    Items Pieces (text ++ more) forms (rest ++ more) := by
  match items with
  | .last value closes =>
      have left := ne_nil_of_afterBlanks (closes ▸ List.cons_ne_nil _ _)
      exact .last (value.append (.inr left) more) (afterBlanks_append_of_found closes more)
  | .more value comma items =>
      have left := ne_nil_of_afterBlanks (comma ▸ List.cons_ne_nil _ _)
      have goesOn := items.append more
      rw [← afterBlanks_append_of_ne_nil items.ne_nil] at goesOn
      exact .more (value.append (.inr left) more) (afterBlanks_append_of_found comma more) goesOn
termination_by structural items

theorem Members.append (members : Members Pieces text entries rest)
    (more : List Char) : Members Pieces (text ++ more) entries (rest ++ more) := by
  match members with
  | .last member closes =>
      have left := ne_nil_of_afterBlanks (closes ▸ List.cons_ne_nil _ _)
      exact .last (member.append left more) (afterBlanks_append_of_found closes more)
  | .more member comma members =>
      have left := ne_nil_of_afterBlanks (comma ▸ List.cons_ne_nil _ _)
      have goesOn := members.append more
      rw [← afterBlanks_append_of_ne_nil members.ne_nil] at goesOn
      exact .more (member.append left more) (afterBlanks_append_of_found comma more) goesOn
termination_by structural members

theorem Member.append (member : Member Pieces text entry rest)
    (left : rest ≠ []) (more : List Char) : Member Pieces (text ++ more) entry (rest ++ more) := by
  match member with
  | .mk spelt colon value =>
      have goesOn := value.append (.inr left) more
      rw [← afterBlanks_append_of_ne_nil value.ne_nil] at goesOn
      exact .mk (spelt.append more) (afterBlanks_append_of_found colon more) goesOn
termination_by structural member

end

end Grammar

namespace Reader

variable {α : Type} {reader : Reader α} {Stands : Form → α → Prop} {text : List Char} {value : α}

theorem Takes.unique {other : α} {rest rest' : List Char} (taken : reader.Takes text value rest)
    (taken' : reader.Takes text other rest') : value = other ∧ rest = rest' := by
  cases taken.symm.trans taken'
  exact ⟨rfl, rfl⟩

/-- A text that has been read goes on with blanks, or it is not read any more. -/
theorem run_append_eq_ok_iff (accepts : reader.Accepts Stands)
    (closed : ∀ form value, Stands form value → Spelt.Closed form)
    (complete : reader.run text = .ok value) {more : List Char} {other : α} :
    reader.run (text ++ more) = .ok other ↔
      (∀ c ∈ more, isBlank c = true) ∧ other = value := by
  obtain ⟨form, ⟨behind, spelt, blanks⟩, stands⟩ := (run_eq_ok_iff accepts).mp complete
  -- The value is still there, and what follows it is what followed before and the text that is new.
  have still := spelt.append (.inl (closed form value stands)) more
  rw [← Grammar.afterBlanks_append_of_ne_nil spelt.ne_nil] at still
  have taken := (accepts _ _ _).mpr ⟨form, still, stands⟩
  rw [Grammar.afterBlanks_eq_nil_iff] at blanks
  rw [run_eq_ok_iff accepts]
  constructor
  · intro again
    obtain ⟨form', ⟨rest, spelt', nothing⟩, stands'⟩ := again
    obtain ⟨same, behind'⟩ := taken.unique ((accepts _ _ _).mpr ⟨form', spelt', stands'⟩)
    rw [← behind', Grammar.afterBlanks_eq_nil_iff] at nothing
    exact ⟨fun c member => nothing c (List.mem_append_right behind member), same.symm⟩
  · intro goesOn
    obtain ⟨blank, same⟩ := goesOn
    subst same
    refine ⟨form, ⟨behind ++ more, still, ?_⟩, stands⟩
    rw [Grammar.afterBlanks_eq_nil_iff]
    intro c member
    exact (List.mem_append.mp member).elim (blanks c) (blank c)

end Reader

end TokenStream.Json
