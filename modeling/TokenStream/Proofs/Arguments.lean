import TokenStream.Proofs.Contents

namespace TokenStream

/-! The order and the spelling of arguments.

A line of arguments is a list of items: options with their values, flags for places and
input files.  A value that comes in an argument of its own is kept aside, so a fault shows
later than it is made.  All that counts in the end is what the items say
(`Parse.outcome_eq`), and that can be said at once: which lines are taken and what they
come to (`Invocation.ofArguments_items`).
-/

/-- The options that take a value. -/
inductive ValueOption where
  | config
  | format
  | logLevel
  | lexerLogLevel
  | logFormat
  | logFile
deriving Repr, DecidableEq

namespace ValueOption

def slot : ValueOption → Slot
  | .config => .config
  | .format => .format
  | .logLevel => .logLevel
  | .lexerLogLevel => .lexerLogLevel
  | .logFormat => .logFormat
  | .logFile => .logFile

def name : ValueOption → String
  | .config => "config"
  | .format => "format"
  | .logLevel => "log-level"
  | .lexerLogLevel => "lexer-log-level"
  | .logFormat => "log-format"
  | .logFile => "log-file"

theorem name_cons (option : ValueOption) : ∃ c later, option.name.toList = c :: later := by
  cases option <;> exact ⟨_, _, rfl⟩

end ValueOption

/-- The ways to write an option and its value, in two arguments or in one.  Only the option for the
format has a letter. -/
inductive Spelling : ValueOption → Type where
  | long (option : ValueOption) : Spelling option
  | longEquals (option : ValueOption) : Spelling option
  | short : Spelling .format
  | shortEquals : Spelling .format
  | shortJoined : Spelling .format

def Spelling.isApart : Spelling option → Bool
  | .long _ | .short => true
  | .longEquals _ | .shortEquals | .shortJoined => false

/-- A value that can be taken neither for an option nor for the rest of one. -/
structure OptionValue where
  text : String
  plain : ∃ c later, text.toList = c :: later ∧ c ≠ '-' ∧ c ≠ '='

theorem OptionValue.ne_empty (value : OptionValue) : value.text ≠ "" := by
  obtain ⟨c, later, written, _⟩ := value.plain
  intro empty
  simp [empty] at written

/-- An input file by its path, or the standard input. -/
structure InputName where
  text : String
  plain : text = "-" ∨ ∃ c later, text.toList = c :: later ∧ c ≠ '-'

theorem InputName.ne_empty (name : InputName) : name.text ≠ "" := by
  intro empty
  obtain standard | ⟨c, later, written, _⟩ := name.plain
  · simp [empty] at standard
  · simp [empty] at written

/-- What stands in a line of arguments, and takes up one argument or two. -/
inductive Item where
  | setting (option : ValueOption) (spelling : Spelling option) (value : OptionValue)
  | spans (shown : Bool)
  | input (name : InputName)

namespace Item

def arguments : Item → List String
  | .setting option (.long _) value => ["--" ++ option.name, value.text]
  | .setting option (.longEquals _) value => ["--" ++ option.name ++ "=" ++ value.text]
  | .setting _ .short value => ["-f", value.text]
  | .setting _ .shortEquals value => ["-f=" ++ value.text]
  | .setting _ .shortJoined value => ["-f" ++ value.text]
  | .spans true => ["--spans"]
  | .spans false => ["--no-spans"]
  | .input name => [name.text]

/-- What an item says, however it is written. -/
def content : Item → Content
  | .setting option _ value => .value option.slot value.text
  | .spans shown => .spans shown
  | .input name => .value .input name.text

end Item

namespace Parse

theorem long_name (parse : Parse) (option : ValueOption) :
    parse.long option.name.toList = parse.await option.slot := by
  cases option <;> rfl

theorem long_name_equals (parse : Parse) (option : ValueOption) (value : List Char) :
    parse.long (option.name.toList ++ '=' :: value) =
      parse.attach option.slot (String.ofList value) := by
  cases option <;> rfl

theorem cluster_joined (parse : Parse) {c : Char} (later : List Char) (plain : c ≠ '=') :
    parse.cluster ('f' :: c :: later) = parse.attach .format (String.ofList (c :: later)) := by
  simp [cluster, shortOptions, plain]

theorem arguments_long (parse : Parse) {argument : String} {c : Char} {spelt : List Char}
    (written : argument.toList = '-' :: '-' :: c :: spelt) (rest : List String) :
    parse.arguments (argument :: rest) = parse.long (c :: spelt) >>= (arguments · rest) := by
  have more : argument ≠ "--" := by
    intro same
    simp [same] at written
  simp only [arguments, written]

theorem arguments_cluster (parse : Parse) {argument : String} {c : Char} {letters : List Char}
    (written : argument.toList = '-' :: c :: letters) (letter : c ≠ '-') (rest : List String) :
    parse.arguments (argument :: rest) = parse.cluster (c :: letters) >>= (arguments · rest) := by
  have more : argument ≠ "--" := by
    intro same
    rw [same] at written
    exact letter (List.cons.inj (List.cons.inj written).2).1.symm
  simp only [arguments, written]

theorem arguments_word (parse : Parse) {argument : String}
    (plain : argument = "-" ∨ ∃ c later, argument.toList = c :: later ∧ c ≠ '-')
    (rest : List String) :
    parse.arguments (argument :: rest) = parse.word argument >>= (arguments · rest) := by
  obtain standard | ⟨c, later, written, plain⟩ := plain
  · simp [arguments, standard]
  · have more : argument ≠ "--" := by
      intro same
      rw [same] at written
      exact plain (List.cons.inj written).1.symm
    simp [arguments, written, plain]

/-- The parse behind an item. -/
def take (parse : Parse) : Item → Except Refusal Parse
  | .setting option spelling value =>
      if spelling.isApart then parse.await option.slot >>= (word · value.text)
      else parse.attach option.slot value.text
  | .spans shown => parse.flag shown
  | .input name => parse.word name.text

theorem arguments_setting (parse : Parse) {option : ValueOption} (spelling : Spelling option)
    (value : OptionValue) (rest : List String) :
    parse.arguments ((Item.setting option spelling value).arguments ++ rest) =
      parse.take (.setting option spelling value) >>= (arguments · rest) := by
  obtain ⟨c, later, written, plain⟩ := value.plain
  have same : String.ofList (c :: later) = value.text := by
    rw [← written, String.ofList_toList]
  have apart (parse : Parse) : parse.arguments (value.text :: rest) =
      parse.word value.text >>= (arguments · rest) :=
    parse.arguments_word (.inr ⟨c, later, written, plain.1⟩) rest
  obtain ⟨d, more, name⟩ := option.name_cons
  cases spelling with
  | long =>
      have head : ("--" ++ option.name).toList = '-' :: '-' :: d :: more := by
        simp [name]
      have reads := parse.arguments_long head (value.text :: rest)
      rw [← name, parse.long_name] at reads
      simp [Item.arguments, take, Spelling.isApart, reads, apart]
  | longEquals =>
      have head : ("--" ++ option.name ++ "=" ++ value.text).toList =
          '-' :: '-' :: d :: (more ++ '=' :: c :: later) := by
        simp [name, written]
      have reads := parse.arguments_long head rest
      rw [← List.cons_append, ← name, parse.long_name_equals, same] at reads
      simp [Item.arguments, take, Spelling.isApart, reads]
  | short =>
      have head : "-f".toList = '-' :: 'f' :: [] := by simp
      have reads := parse.arguments_cluster head (by decide) (value.text :: rest)
      have waits : parse.cluster ['f'] = parse.await .format := rfl
      simp [Item.arguments, take, Spelling.isApart, ValueOption.slot, reads, waits, apart]
  | shortEquals =>
      have head : ("-f=" ++ value.text).toList = '-' :: 'f' :: '=' :: c :: later := by
        simp [written]
      have reads := parse.arguments_cluster head (by decide) rest
      have filled : parse.cluster ('f' :: '=' :: c :: later) =
          parse.attach .format (String.ofList (c :: later)) := rfl
      rw [filled, same] at reads
      exact reads
  | shortJoined =>
      have head : ("-f" ++ value.text).toList = '-' :: 'f' :: c :: later := by
        simp [written]
      have reads := parse.arguments_cluster head (by decide) rest
      rw [parse.cluster_joined later plain.2, same] at reads
      exact reads

theorem arguments_item (parse : Parse) (item : Item) (rest : List String) :
    parse.arguments (item.arguments ++ rest) = parse.take item >>= (arguments · rest) := by
  cases item with
  | setting option spelling value => exact parse.arguments_setting spelling value rest
  | spans shown => cases shown <;> rfl
  | input name => exact parse.arguments_word name.plain rest

/-- No option waits for its value. -/
def Ready (parse : Parse) : Prop :=
  ∀ slot, parse.aside ≠ some (slot, none)

theorem ready_of_none (invocation : Invocation) : Ready { invocation, aside := none } :=
  fun _ waits => nomatch waits

theorem ready_of_value (invocation : Invocation) (slot : Slot) (text : String) :
    Ready { invocation, aside := some (slot, some text) } :=
  fun _ waits => nomatch waits

/-- What the parse comes to when no argument follows. -/
def settled? (parse : Parse) : Option Invocation :=
  match parse.aside with
  | none => some parse.invocation
  | some (_, none) => none
  | some (slot, some value) => (fill parse.invocation slot value).toOption

theorem settle_cases (parse : Parse) :
    (∃ invocation, parse.settled? = some invocation ∧
        parse.settle = .ok { invocation, aside := none }) ∨
      (∃ refusal, parse.settle = .error refusal) ∧ parse.settled? = none := by
  obtain ⟨invocation, aside⟩ := parse
  cases aside with
  | none => exact .inl ⟨invocation, rfl, rfl⟩
  | some kept =>
      obtain ⟨slot, value⟩ := kept
      cases value with
      | none => exact .inr ⟨⟨_, rfl⟩, rfl⟩
      | some value =>
          rw [settled?, settle]
          cases filled : fill invocation slot value with
          | error refusal => exact .inr ⟨⟨refusal, by simp [filled]⟩, by simp [filled, Except.toOption]⟩
          | ok after => exact .inl ⟨after, by simp [filled, Except.toOption], by simp [filled]⟩

/-- The result comes to the outcome: it is a parse that does, or a refusal if there is none. -/
def ComesTo (outcome : Option Invocation) : Except Refusal Parse → Prop
  | .ok after => after.Ready ∧ after.settled? = outcome
  | .error _ => outcome = none

theorem comesTo_settle {parse : Parse} {next : Parse → Except Refusal Parse}
    {change : Invocation → Option Invocation}
    (changes : ∀ invocation,
      ComesTo (change invocation) (next { invocation, aside := none })) :
    ComesTo (parse.settled?.bind change) (parse.settle >>= next) := by
  obtain ⟨invocation, settled, settles⟩ | ⟨⟨refusal, refused⟩, nothing⟩ := parse.settle_cases
  · rw [settled, settles]
    exact changes invocation
  · rw [refused, nothing]
    rfl

theorem toOption_fill (invocation : Invocation) (slot : Slot) {text : String} (filled : text ≠ "") :
    (fill invocation slot text).toOption = (Content.value slot text).add invocation := by
  have value : text.isEmpty = false := by
    simpa using filled
  rw [fill, Content.add, value, Bool.and_false, if_neg Bool.false_ne_true]
  split
  · rfl
  · rfl

theorem eq_set_of_fill {before after : Invocation} {slot : Slot} {text : String}
    (filled : (fill before slot text).toOption = some after) : after = before.set slot text := by
  rw [fill] at filled
  split at filled
  · cases filled
  · split at filled
    · cases filled
    · cases filled
      rfl

theorem comesTo_attach (parse : Parse) (slot : Slot) {text : String} (filled : text ≠ "") :
    ComesTo (parse.settled?.bind (Content.value slot text).add) (parse.attach slot text) := by
  rw [attach]
  apply comesTo_settle
  intro invocation
  rw [← toOption_fill invocation slot filled]
  cases fill invocation slot text with
  | ok after => exact ⟨ready_of_none after, rfl⟩
  | error refusal => rfl

/-- A value in an argument of its own is kept aside, and so is what is wrong with it. -/
theorem comesTo_await (parse : Parse) (slot : Slot) {text : String} (filled : text ≠ "") :
    ComesTo (parse.settled?.bind (Content.value slot text).add)
      (parse.await slot >>= (word · text)) := by
  rw [await, bind_assoc]
  apply comesTo_settle
  intro invocation
  exact ⟨ready_of_value invocation slot text, toOption_fill invocation slot filled⟩

theorem comesTo_flag (parse : Parse) (shown : Bool) :
    ComesTo (parse.settled?.bind (Content.spans shown).add) (parse.flag shown) := by
  rw [flag]
  apply comesTo_settle
  intro invocation
  by_cases repeated : invocation.flagged shown = true
  · rw [Content.add, if_pos repeated, if_pos repeated]
    rfl
  · rw [Content.add, if_neg repeated, if_neg repeated]
    exact ⟨ready_of_none _, rfl⟩

/-- An input file that is kept aside counts as one that is there. -/
theorem isSome_input_of_settled {parse : Parse} {invocation : Invocation}
    (settled : parse.settled? = some invocation) :
    (parse.invocation.input.isSome || parse.aside.any (·.1 == .input)) =
      invocation.input.isSome := by
  obtain ⟨before, aside⟩ := parse
  cases aside with
  | none =>
      cases settled
      simp
  | some kept =>
      obtain ⟨slot, value⟩ := kept
      cases value with
      | none => cases settled
      | some value =>
          have filled : (fill before slot value).toOption = some invocation := settled
          rw [eq_set_of_fill filled]
          cases slot <;> simp [Invocation.set]

theorem comesTo_positional (parse : Parse) {text : String} (filled : text ≠ "") :
    ComesTo (parse.settled?.bind (Content.value .input text).add) (parse.positional text) := by
  by_cases twice : (parse.invocation.input.isSome || parse.aside.any (·.1 == .input)) = true
  · have refused : parse.positional text = .error .unknownArgument := by
      rw [positional, if_pos twice]
      rfl
    rw [refused]
    cases settled : parse.settled? with
    | none => rfl
    | some invocation =>
        have there : (invocation.get .input).isSome = true :=
          (isSome_input_of_settled settled).symm.trans twice
        simp [ComesTo, Content.add, there]
  · rw [positional, if_neg twice]
    apply comesTo_settle
    intro invocation
    exact ⟨ready_of_value invocation .input text, toOption_fill invocation .input filled⟩

theorem word_of_ready {parse : Parse} (ready : parse.Ready) (text : String) :
    parse.word text = parse.positional text := by
  rw [word]
  split
  · exact absurd ‹_› (ready _)
  · rfl

theorem comesTo_take {parse : Parse} (ready : parse.Ready) (item : Item) :
    ComesTo (parse.settled?.bind item.content.add) (parse.take item) := by
  cases item with
  | setting option spelling value =>
      rw [take]
      split
      · exact parse.comesTo_await option.slot value.ne_empty
      · exact parse.comesTo_attach option.slot value.ne_empty
  | spans shown => exact parse.comesTo_flag shown
  | input name =>
      rw [take, word_of_ready ready]
      exact parse.comesTo_positional name.ne_empty

/-- A line of items comes to what they say, one after another. -/
theorem outcome_eq {parse : Parse} (ready : parse.Ready) (items : List Item) :
    (parse.arguments (items.flatMap Item.arguments)).toOption.map Parse.invocation =
      parse.settled?.bind (Content.addAll (items.map Item.content)) := by
  induction items generalizing parse with
  | nil =>
      obtain ⟨invocation, settled, settles⟩ | ⟨⟨refusal, refused⟩, nothing⟩ := parse.settle_cases
      · simp [arguments, settled, settles, Except.toOption, Content.addAll]
      · simp [arguments, refused, nothing, Except.toOption]
  | cons item items ih =>
      have comes := comesTo_take ready item
      have first : parse.settled?.bind (Content.addAll ((item :: items).map Item.content)) =
          (parse.settled?.bind item.content.add).bind (Content.addAll (items.map Item.content)) :=
        (Option.bind_assoc _ _ _).symm
      rw [List.flatMap_cons, arguments_item, first]
      cases taken : parse.take item with
      | ok after =>
          rw [taken] at comes
          rw [← comes.2]
          exact ih comes.1
      | error refusal =>
          have nothing : parse.settled?.bind item.content.add = none := by
            rwa [taken] at comes
          rw [nothing]
          rfl

end Parse

namespace Invocation

theorem ofArguments_eq_ok_iff {line : List String} {invocation : Invocation} :
    ofArguments line = .ok invocation ↔
      (Parse.start.arguments line).toOption.map Parse.invocation = some invocation := by
  rw [ofArguments]
  cases Parse.start.arguments line with
  | ok parse => simp [Except.toOption]
  | error refusal => simp [Except.toOption]

theorem ofArguments_items_eq_ok_iff (items : List Item) (invocation : Invocation) :
    ofArguments (items.flatMap Item.arguments) = .ok invocation ↔
      Content.Admissible (items.map Item.content) ∧
        invocation.Holds (items.map Item.content) := by
  have ready : Parse.start.Ready := Parse.ready_of_none {}
  rw [ofArguments_eq_ok_iff, Parse.outcome_eq ready]
  have unflagged : ({} : Invocation).FlagsApart := nofun
  exact Content.addAll_eq_some_iff (items.map Item.content) unflagged invocation

/-- A line of options, flags and input files is taken just if no slot gets two values and no flag is
repeated before its opposite.  It comes to the values given and to the last flag, in whatever
order and spelling they come. -/
theorem ofArguments_items (items : List Item) :
    let line := items.flatMap Item.arguments
    let said := items.map Item.content
    ((∃ invocation, ofArguments line = .ok invocation) ↔ Content.Admissible said) ∧
      (∀ invocation, ofArguments line = .ok invocation ↔
        Content.Admissible said ∧ invocation.Holds said) ∧
      ∀ (items' : List Item),
        let line' := items'.flatMap Item.arguments
        let said' := items'.map Item.content
        (∀ invocation invocation', ofArguments line = .ok invocation →
          ofArguments line' = .ok invocation' → said.Perm said' →
          (Content.flags said).getLast? = (Content.flags said').getLast? →
          invocation = invocation') ∧
        (said = said' → ∀ invocation, ofArguments line = .ok invocation ↔
          ofArguments line' = .ok invocation) := by
  intro line said
  have taken := ofArguments_items_eq_ok_iff items
  refine ⟨⟨fun accepted => ?_, fun admissible => ?_⟩, taken, fun items' => ?_⟩
  · obtain ⟨invocation, result⟩ := accepted
    exact ((taken invocation).mp result).1
  · obtain ⟨invocation, holds⟩ := exists_holds said
    exact ⟨invocation, (taken invocation).mpr ⟨admissible, holds⟩⟩
  · intro line' said'
    have taken' := ofArguments_items_eq_ok_iff items'
    constructor
    · intro invocation invocation' result result' perm last
      obtain ⟨admissible, holds⟩ := (taken invocation).mp result
      have holds' := ((taken' invocation').mp result').2
      exact holds.eq_of_perm holds' admissible.once perm last
    · intro same invocation
      rw [taken invocation, taken' invocation]
      exact iff_of_eq (congrArg (fun said => Content.Admissible said ∧ invocation.Holds said) same)

/-- The flag that is overruled, the letter for the format and the place of the input leave no trace. -/
theorem ofArguments_reordered : ∃ invocation,
    ofArguments ["--spans", "-fjson", "a", "--no-spans"] = .ok invocation ∧
      ofArguments ["a", "--spans", "--no-spans", "--format", "json"] = .ok invocation := by
  let json : OptionValue :=
    { text := "json", plain := ⟨'j', ['s', 'o', 'n'], by simp, by decide, by decide⟩ }
  let file : InputName := { text := "a", plain := .inr ⟨'a', [], by simp, by decide⟩ }
  let first : List Item := [.spans true, .setting .format .shortJoined json, .input file, .spans false]
  let second : List Item := [.input file, .spans true, .spans false, .setting .format (.long _) json]
  have perm : (first.map Item.content).Perm (second.map Item.content) := by decide
  have admissible : Content.Admissible (first.map Item.content) :=
    ⟨fun slot => by cases slot <;> decide, by decide⟩
  have admissible' : Content.Admissible (second.map Item.content) :=
    ⟨fun slot => by cases slot <;> decide, by decide⟩
  obtain ⟨invocation, result⟩ := (ofArguments_items first).1.mpr admissible
  obtain ⟨invocation', result'⟩ := (ofArguments_items second).1.mpr admissible'
  have same := ((ofArguments_items first).2.2 second).1 invocation invocation' result result' perm rfl
  subst same
  exact ⟨invocation, result, result'⟩

end Invocation

end TokenStream
