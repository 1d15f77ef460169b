import Mathlib.Data.List.Basic
import Mathlib.Tactic.MkIffOfInductiveProp
import TokenStream.Arguments

namespace TokenStream

/-- One thing that is said in a line of arguments. -/
inductive Content where
  | value (slot : Slot) (text : String)
  | spans (shown : Bool)
deriving Repr, DecidableEq

namespace Content

/-- The values for a slot, in order. -/
def given (slot : Slot) (contents : List Content) : List String :=
  contents.filterMap fun
    | .value other text => if other = slot then some text else none
    | .spans _ => none

/-- The flags for places, in order. -/
def flags (contents : List Content) : List Bool :=
  contents.filterMap fun
    | .value _ _ => none
    | .spans shown => some shown

/-- No slot gets a second value, and no flag is repeated before its opposite has come. -/
@[mk_iff]
structure Admissible (contents : List Content) : Prop where
  once : ∀ slot, (given slot contents).length ≤ 1
  alternating : (flags contents).IsChain (· ≠ ·)

/-- The invocation with one more thing said. -/
def add (content : Content) (invocation : Invocation) : Option Invocation :=
  match content with
  | .value slot text =>
      if (invocation.get slot).isSome then none else some (invocation.set slot text)
  | .spans shown =>
      if invocation.flagged shown then none else some (invocation.raise shown)

/-- The invocation with all contents said, one after another. -/
def addAll : List Content → Invocation → Option Invocation
  | [], invocation => some invocation
  | content :: contents, invocation => (content.add invocation).bind (addAll contents)

end Content

/-- The flags for places and against them are not both up. -/
def Invocation.FlagsApart (invocation : Invocation) : Prop :=
  invocation.spans = true → invocation.noSpans = false

/-- The invocation has the values that are said, and the last of the flags. -/
@[mk_iff]
structure Invocation.Holds (contents : List Content) (invocation : Invocation) : Prop where
  values : ∀ slot, invocation.get slot = (Content.given slot contents).head?
  spans : invocation.showSpans = (Content.flags contents).getLast?
  apart : invocation.FlagsApart

/-- What an invocation says itself. -/
def Invocation.contents (invocation : Invocation) : List Content :=
  [.input, .config, .format, .logLevel, .lexerLogLevel, .logFormat, .logFile].flatMap
      (fun slot => (invocation.get slot).toList.map (Content.value slot)) ++
    invocation.showSpans.toList.map Content.spans

namespace Invocation

@[simp]
theorem get_raise (invocation : Invocation) (shown : Bool) (slot : Slot) :
    (invocation.raise shown).get slot = invocation.get slot := by
  cases slot <;> rfl

@[simp]
theorem showSpans_raise (invocation : Invocation) (shown : Bool) :
    (invocation.raise shown).showSpans = some shown := by
  cases shown <;> rfl

theorem flagsApart_raise (invocation : Invocation) (shown : Bool) :
    (invocation.raise shown).FlagsApart := by
  cases shown <;> simp [FlagsApart, raise]

@[simp]
theorem showSpans_set (invocation : Invocation) (slot : Slot) (value : String) :
    (invocation.set slot value).showSpans = invocation.showSpans := by
  cases slot <;> rfl

theorem flagsApart_set {invocation : Invocation} (apart : invocation.FlagsApart) (slot : Slot)
    (value : String) : (invocation.set slot value).FlagsApart := by
  cases slot <;> exact apart

theorem flagged_iff {invocation : Invocation} (apart : invocation.FlagsApart) (shown : Bool) :
    invocation.flagged shown = true ↔ invocation.showSpans = some shown := by
  rw [flagged, showSpans]
  cases up : invocation.spans with
  | true => cases shown <;> simp [apart up]
  | false => cases shown <;> cases invocation.noSpans <;> simp

theorem flagged_eq {first second : Invocation} (spans : first.showSpans = second.showSpans)
    (apart : first.FlagsApart) (apart' : second.FlagsApart) (shown : Bool) :
    first.flagged shown = second.flagged shown := by
  rw [Bool.eq_iff_iff, flagged_iff apart, flagged_iff apart', spans]

end Invocation

namespace Content

@[simp]
theorem given_append (slot : Slot) (first second : List Content) :
    given slot (first ++ second) = given slot first ++ given slot second :=
  List.filterMap_append

@[simp]
theorem flags_append (first second : List Content) :
    flags (first ++ second) = flags first ++ flags second :=
  List.filterMap_append

@[simp]
theorem given_cons_value_same (slot : Slot) (text : String) (contents : List Content) :
    given slot (.value slot text :: contents) = text :: given slot contents := by
  simp [given]

theorem given_cons_value_other {slot other : Slot} (different : other ≠ slot) (text : String)
    (contents : List Content) :
    given other (.value slot text :: contents) = given other contents := by
  simp [given, Ne.symm different]

@[simp]
theorem given_cons_spans (slot : Slot) (shown : Bool) (contents : List Content) :
    given slot (.spans shown :: contents) = given slot contents := rfl

@[simp]
theorem flags_cons_value (slot : Slot) (text : String) (contents : List Content) :
    flags (.value slot text :: contents) = flags contents := rfl

@[simp]
theorem flags_cons_spans (shown : Bool) (contents : List Content) :
    flags (.spans shown :: contents) = shown :: flags contents := rfl

@[simp]
theorem given_contents (invocation : Invocation) (slot : Slot) :
    given slot invocation.contents = (invocation.get slot).toList := by
  cases slot <;> simp [Invocation.contents, given, List.filterMap_append]

@[simp]
theorem flags_contents (invocation : Invocation) :
    flags invocation.contents = invocation.showSpans.toList := by
  simp [Invocation.contents, flags, List.filterMap_append]

theorem add_value_eq_some_iff {slot : Slot} {text : String} {before after : Invocation} :
    (value slot text).add before = some after ↔
      before.get slot = none ∧ before.set slot text = after := by
  simp [add]

theorem add_spans_eq_some_iff {shown : Bool} {before after : Invocation}
    (apart : before.FlagsApart) :
    (spans shown).add before = some after ↔
      before.showSpans ≠ some shown ∧ before.raise shown = after := by
  simp [add, Invocation.flagged_iff apart]

theorem flagsApart_of_add {content : Content} {before after : Invocation}
    (apart : before.FlagsApart) (added : content.add before = some after) : after.FlagsApart := by
  cases content with
  | value slot text =>
      obtain ⟨_, rfl⟩ := add_value_eq_some_iff.mp added
      exact Invocation.flagsApart_set apart slot text
  | spans shown =>
      obtain ⟨_, rfl⟩ := (add_spans_eq_some_iff apart).mp added
      exact before.flagsApart_raise shown

theorem not_admissible_of_add {content : Content} {before : Invocation}
    (apart : before.FlagsApart) (refused : content.add before = none) (contents : List Content) :
    ¬ Admissible (before.contents ++ content :: contents) := by
  intro admissible
  cases content with
  | value slot text =>
      have there : (before.get slot).isSome = true := by
        by_contra missing
        simp [add, missing] at refused
      obtain ⟨value, held⟩ := Option.isSome_iff_exists.mp there
      have twice := admissible.once slot
      simp [held] at twice
  | spans shown =>
      have there : before.showSpans = some shown := by
        by_contra other
        simp [add, Invocation.flagged_iff apart, other] at refused
      have repeated := admissible.alternating
      simp [there] at repeated

theorem given_of_add {content : Content} {before after : Invocation} (apart : before.FlagsApart)
    (added : content.add before = some after) (contents : List Content) (slot : Slot) :
    given slot (after.contents ++ contents) = given slot (before.contents ++ content :: contents) := by
  cases content with
  | value filled text =>
      obtain ⟨missing, set⟩ := add_value_eq_some_iff.mp added
      subst set
      by_cases same : slot = filled
      · simp [same, missing]
      · simp [Invocation.get_set_other _ _ same, given_cons_value_other same]
  | spans shown =>
      obtain ⟨_, rfl⟩ := (add_spans_eq_some_iff apart).mp added
      simp

/-- A flag that another one overrules is forgotten, which neither the last of the flags nor what may
follow them shows. -/
theorem flags_of_add {content : Content} {before after : Invocation} (apart : before.FlagsApart)
    (added : content.add before = some after) (contents : List Content) :
    (flags (after.contents ++ contents)).getLast? =
        (flags (before.contents ++ content :: contents)).getLast? ∧
      ((flags (after.contents ++ contents)).IsChain (· ≠ ·) ↔
        (flags (before.contents ++ content :: contents)).IsChain (· ≠ ·)) := by
  cases content with
  | value slot text =>
      obtain ⟨_, rfl⟩ := add_value_eq_some_iff.mp added
      simp
  | spans shown =>
      obtain ⟨other, rfl⟩ := (add_spans_eq_some_iff apart).mp added
      cases held : before.showSpans with
      | none => simp [held]
      | some last =>
          have different : last ≠ shown := by simpa [held] using other
          simp [held, different]

theorem admissible_contents (invocation : Invocation) : Admissible invocation.contents where
  once slot := by
    rw [given_contents]
    cases invocation.get slot <;> simp
  alternating := by
    rw [flags_contents]
    cases invocation.showSpans <;> simp

end Content

namespace Invocation

theorem ext_get {first second : Invocation} (values : ∀ slot, first.get slot = second.get slot)
    (spans : first.showSpans = second.showSpans) (apart : first.FlagsApart)
    (apart' : second.FlagsApart) : first = second := by
  have up : first.spans = second.spans := flagged_eq spans apart apart' true
  have down : first.noSpans = second.noSpans := flagged_eq spans apart apart' false
  obtain ⟨_, _, _, _, _, _, _, _, _⟩ := first
  obtain ⟨_, _, _, _, _, _, _, _, _⟩ := second
  have input := values .input
  have config := values .config
  have format := values .format
  have logLevel := values .logLevel
  have lexerLogLevel := values .lexerLogLevel
  have logFormat := values .logFormat
  have logFile := values .logFile
  simp_all [get]

theorem holds_contents_iff {first second : Invocation} (apart : first.FlagsApart) :
    second.Holds first.contents ↔ first = second := by
  have last : first.showSpans.toList.getLast? = first.showSpans := by
    cases first.showSpans <;> rfl
  simp only [holds_iff, Content.given_contents, Content.flags_contents, Option.head?_toList, last]
  constructor
  · intro held
    exact ext_get (fun slot => (held.1 slot).symm) held.2.1.symm apart held.2.2
  · intro same
    subst same
    exact ⟨fun _ => rfl, rfl, apart⟩

theorem exists_holds (contents : List Content) :
    ∃ invocation : Invocation, invocation.Holds contents := by
  let given : Invocation :=
    { input := (Content.given .input contents).head?
      config := (Content.given .config contents).head?
      format := (Content.given .format contents).head?
      logLevel := (Content.given .logLevel contents).head?
      lexerLogLevel := (Content.given .lexerLogLevel contents).head?
      logFormat := (Content.given .logFormat contents).head?
      logFile := (Content.given .logFile contents).head? }
  have values (slot : Slot) : given.get slot = (Content.given slot contents).head? := by
    cases slot <;> rfl
  cases last : (Content.flags contents).getLast? with
  | none => exact ⟨given, values, last.symm, nofun⟩
  | some shown =>
      refine ⟨given.raise shown, fun slot => ?_, ?_, given.flagsApart_raise shown⟩
      · rw [get_raise, values]
      · rw [showSpans_raise, last]

theorem Holds.eq_of_perm {contents contents' : List Content} {invocation invocation' : Invocation}
    (holds : invocation.Holds contents) (holds' : invocation'.Holds contents')
    (once : ∀ slot, (Content.given slot contents).length ≤ 1) (perm : contents.Perm contents')
    (last : (Content.flags contents).getLast? = (Content.flags contents').getLast?) :
    invocation = invocation' := by
  refine ext_get (fun slot => ?_) ?_ holds.apart holds'.apart
  · have reordered : (Content.given slot contents).Perm (Content.given slot contents') :=
      perm.filterMap _
    rw [holds.values, holds'.values]
    cases found : Content.given slot contents with
    | nil =>
        rw [found] at reordered
        rw [reordered.nil_eq]
    | cons value more =>
        have alone : more = [] := by simpa [found] using once slot
        rw [found, alone, List.singleton_perm] at reordered
        rw [alone, reordered]
  · rw [holds.spans, holds'.spans, last]

end Invocation

namespace Content

theorem addAll_eq_some_iff (contents : List Content) {before : Invocation}
    (apart : before.FlagsApart) (after : Invocation) :
    addAll contents before = some after ↔
      Admissible (before.contents ++ contents) ∧ after.Holds (before.contents ++ contents) := by
  induction contents generalizing before with
  | nil => simp [addAll, admissible_contents, Invocation.holds_contents_iff apart]
  | cons content contents ih =>
      cases added : content.add before with
      | none =>
          have refused := not_admissible_of_add apart added contents
          simp [addAll, added, refused]
      | some next =>
          have given := given_of_add apart added contents
          obtain ⟨last, chain⟩ := flags_of_add apart added contents
          rw [addAll, added, Option.bind_some, ih (flagsApart_of_add apart added)]
          simp only [admissible_iff, Invocation.holds_iff, given, last, chain]

end Content

end TokenStream
