import TokenStream.Proofs.Stages

namespace TokenStream

open TokenStream.Journal

namespace Invocation

/-- The text that the invocation names, as it was before the run. -/
def text? (invocation : Invocation) (surroundings : Surroundings) : Option (List Char) :=
  match invocation.inputFile? with
  | some path => (surroundings.files.readText path).toOption
  | none => (decodeText surroundings.standardInput).toOption

def format? (invocation : Invocation) (settings : FileSettings) : Option OutputFormat :=
  match invocation.format with
  | none => some settings.output.format
  | some name => OutputFormat.parse? name

/-- What holds for the output: what the command line asks for, over the settings, over the
defaults. -/
def output? (invocation : Invocation) (surroundings : Surroundings) : Option OutputSettings := do
  let settings ← (loadSettings surroundings.files invocation.config).toOption
  let format ← invocation.format? settings
  return { format, showSpans := invocation.showSpans.getD settings.output.showSpans }

/-- The journal would be kept in the very file that is to be taken apart. -/
def JournalInInput (invocation : Invocation) (files : Files) : Prop :=
  ∃ path place, invocation.inputFile? = some path ∧ invocation.journalPlace files = some place ∧
    (invocation.filesAtInput files).locate false path = .ok place

/-- The file that is to be taken apart would be made for the journal. -/
def JournalMakesInput (invocation : Invocation) (files : Files) : Prop :=
  ∃ path place, invocation.inputFile? = some path ∧ invocation.journalPlace files = some place ∧
    (invocation.filesAtInput files).locate false path = .ok place ∧ files.node? place = none

/-- The journal would be kept on standard output. -/
def JournalPrinted (invocation : Invocation) (files : Files) : Prop :=
  (invocation.journalPlace files).bind files.sink? = some .output

/-- The options for the journal are known names, and its file can be opened. -/
structure JournalOpens (invocation : Invocation) (files : Files) : Prop where
  level : ∀ name ∈ invocation.logLevel, (LogLevel.parse? name).isSome = true
  lexerLevel : ∀ name ∈ invocation.lexerLogLevel, (LogLevel.parse? name).isSome = true
  style : ∀ name ∈ invocation.logFormat, (Style.parse? name).isSome = true
  opens : ∃ opened, invocation.openJournal files = .ok opened

/-- The two differ in nothing but their journals. -/
structure SameButJournal (first second : Invocation) : Prop where
  input : first.input = second.input
  config : first.config = second.config
  format : first.format = second.format
  showSpans : first.showSpans = second.showSpans

end Invocation

/-- A run that ends well, with its journal apart from its input. -/
structure Completes (arguments : List String) (surroundings : Surroundings)
    (invocation : Invocation) : Prop where
  read : Invocation.ofArguments arguments = .ok invocation
  exits : (run arguments surroundings).exitCode = 0
  apart : ¬ invocation.JournalInInput surroundings.files

/-- Only the journal is another one in the second arguments, and it can be opened and is apart from
the input. -/
structure ChangesJournal (arguments arguments' : List String) (surroundings : Surroundings)
    (invocation invocation' : Invocation) : Prop where
  read : Invocation.ofArguments arguments = .ok invocation
  read' : Invocation.ofArguments arguments' = .ok invocation'
  same : invocation.SameButJournal invocation'
  opens : invocation'.JournalOpens surroundings.files
  apart : ¬ invocation'.JournalInInput surroundings.files

variable {arguments arguments' : List String} {surroundings : Surroundings}
variable {invocation invocation' : Invocation} {files after opened : Files}

/-- Options can be settled just if all names among them are known. -/
theorem problem?_resolve_eq_none_iff {overrides : Overrides} {settings : FileSettings} :
    problem? (RunOptions.resolve overrides settings) = none ↔
      (∀ name ∈ overrides.format, (OutputFormat.parse? name).isSome = true) ∧
        (∀ name ∈ overrides.logLevel, (LogLevel.parse? name).isSome = true) ∧
        (∀ name ∈ overrides.lexerLogLevel, (LogLevel.parse? name).isSome = true) ∧
        ∀ name ∈ overrides.logFormat, (Style.parse? name).isSome = true := by
  rw [problem?_resolve_eq_head?, List.head?_eq_none_iff, Overrides.problems_eq_nil_iff]

theorem output_of_resolve {overrides : Overrides} {settings : FileSettings} {options : RunOptions}
    (resolved : RunOptions.resolve overrides settings = .ok options) :
    (overrides.format.elim (some settings.output.format) OutputFormat.parse?) =
        some options.output.format ∧
      options.output.showSpans = overrides.showSpans.getD settings.output.showSpans := by
  obtain ⟨fine, rfl⟩ := RunOptions.resolve_eq_ok_iff.mp resolved
  refine ⟨?_, rfl⟩
  have known := (Overrides.problems_eq_nil_iff.mp fine).1
  cases written : overrides.format with
  | none => simp [Overrides.onTopOf, written]
  | some name =>
      obtain ⟨format, found⟩ := Option.isSome_iff_exists.mp (known name written)
      simp [Overrides.onTopOf, written, found]

namespace Invocation

theorem format?_eq_elim (invocation : Invocation) (settings : FileSettings) :
    invocation.format? settings =
      invocation.format.elim (some settings.output.format) OutputFormat.parse? := by
  rw [format?]
  cases invocation.format <;> rfl

/-- The options that a run works with are those for the output that its invocation asks for. -/
theorem output?_of_prepare {options : RunOptions}
    (prepared : prepare invocation surroundings.files = .ok options) :
    invocation.output? surroundings = some options.output := by
  obtain ⟨settings, loaded, resolved⟩ := bind_eq_ok_iff.mp prepared
  obtain ⟨format, showSpans⟩ := output_of_resolve resolved
  have format : invocation.format? settings = some options.output.format := by
    rw [format?_eq_elim]
    exact format
  have showSpans :
      options.output.showSpans = invocation.showSpans.getD settings.output.showSpans := showSpans
  simp [output?, loaded, Except.toOption, format, ← showSpans]

theorem isSome_output?_iff :
    (invocation.output? surroundings).isSome = true ↔
      invocation.problemAt surroundings .settings = none ∧
        ∀ name ∈ invocation.format, (OutputFormat.parse? name).isSome = true := by
  rw [output?, problemAt]
  cases loadSettings surroundings.files invocation.config with
  | error problem => simp [Except.toOption, problem?]
  | ok settings =>
      simp only [Except.toOption, problem?, Option.bind_eq_bind, Option.bind_some, true_and,
        format?]
      cases named : invocation.format with
      | none => simp
      | some name => cases known : OutputFormat.parse? name <;> simp [known]

theorem readInput_eq_ok_iff {text : List Char} :
    readInput files surroundings.standardInput invocation = .ok text ↔
      match invocation.inputFile? with
      | some path => files.readText path = .ok text
      | none => decodeText surroundings.standardInput = .ok text := by
  rw [readInput]
  cases invocation.inputFile? with
  | none => cases decoded : decodeText surroundings.standardInput <;> simp
  | some path => cases found : files.readText path <;> simp [readInputFile, found]

theorem text?_eq_some_iff {text : List Char} :
    invocation.text? surroundings = some text ↔
      readInput surroundings.files surroundings.standardInput invocation = .ok text := by
  rw [readInput_eq_ok_iff, text?]
  cases invocation.inputFile? with
  | none => cases decodeText surroundings.standardInput <;> simp [Except.toOption]
  | some path => cases found : surroundings.files.readText path <;> simp [Except.toOption, found]

/-- The input is read as it was before the run, whatever a journal apart from it has added. -/
theorem readInput_eq_ok_iff_text? {place : Option Place} {text : List Char}
    (grown : surroundings.files.Grown place after)
    (apart : ∀ path, invocation.inputFile? = some path → ∀ there ∈ place,
      after.locate false path ≠ .ok there) :
    readInput after surroundings.standardInput invocation = .ok text ↔
      invocation.text? surroundings = some text := by
  rw [text?_eq_some_iff, readInput_eq_ok_iff, readInput_eq_ok_iff]
  cases named : invocation.inputFile? with
  | none => exact Iff.rfl
  | some path => exact grown.readText_iff (apart path named)

/-- A journal that is kept in the input can neither make it readable nor unreadable, unless it has made
the input itself. -/
theorem problemAt_input_eq_none_iff (done : invocation.openJournal surroundings.files = .ok opened)
    (found : ¬ invocation.JournalMakesInput surroundings.files) :
    invocation.problemAt surroundings .input = none ↔
      (invocation.text? surroundings).isSome = true := by
  have looked := filesAtInput_of_opened done
  have grown := grown_openJournal done
  rw [problemAt, looked]
  by_cases apart : invocation.JournalInInput surroundings.files
  · obtain ⟨path, place, named, here, leads⟩ := apart
    have kept : surroundings.files.Kept (invocation.journalPlace surroundings.files) := by
      intro there member
      obtain rfl : place = there := Option.some.inj (here.symm.trans member)
      exact Option.isSome_iff_ne_none.mpr fun missing =>
        found ⟨path, place, named, here, leads, missing⟩
    rw [problem?_readInput grown kept, problem?_eq_none_iff, Option.isSome_iff_exists]
    simp only [text?_eq_some_iff]
  · rw [problem?_eq_none_iff, Option.isSome_iff_exists]
    apply exists_congr
    intro text
    apply readInput_eq_ok_iff_text? grown
    intro path named place here leads
    exact apart ⟨path, place, named, here, looked ▸ leads⟩

/-- A file that can be read is not made. -/
theorem not_journalMakesInput_of_text? (done : invocation.openJournal surroundings.files = .ok opened)
    (reads : (invocation.text? surroundings).isSome = true) :
    ¬ invocation.JournalMakesInput surroundings.files := by
  intro makes
  obtain ⟨path, place, named, _, leads, missing⟩ := makes
  obtain ⟨text, reads⟩ := Option.isSome_iff_exists.mp reads
  rw [text?_eq_some_iff, readInput_eq_ok_iff, named] at reads
  obtain ⟨bytes, found, _⟩ := bind_eq_ok_iff.mp reads
  obtain ⟨there, leads', _, content⟩ := Files.readBytes_eq_ok_iff.mp found
  have still := ((grown_openJournal done).carries there).locate leads'
  rw [filesAtInput_of_opened done, still] at leads
  rw [Files.bytes?, Except.ok.inj leads, missing] at content
  cases content

/-- A run ends well just if nothing goes wrong at any stage. -/
theorem exits_iff (read : Invocation.ofArguments arguments = .ok invocation) :
    (invocation.run surroundings).exitCode = 0 ↔
      ∀ stage, invocation.problemAt surroundings stage = none := by
  have ends := invocation.ends_run surroundings read
  constructor
  · intro exits
    have unhalted : firstHalt arguments surroundings = none := by
      cases halted : firstHalt arguments surroundings with
      | none => rfl
      | some reached =>
          obtain ⟨stage, halt⟩ := reached
          have exits' := (ends.reports stage halt halted).1
          rw [firstHalt_eq read] at halted
          obtain ⟨stage', _, halted⟩ := List.exists_of_findSome?_eq_some halted
          obtain ⟨problem, _, made⟩ := Option.map_eq_some_iff.mp halted
          cases made
          rw [exits'] at exits
          cases exits
    rw [firstHalt_eq read, List.findSome?_eq_none_iff] at unhalted
    intro stage
    cases stage with
    | arguments => rfl
    | settings | options | journal | input =>
        exact Option.map_eq_none_iff.mp (unhalted _ (by simp))
  · intro fine
    apply ends.completes
    rw [firstHalt_eq read, List.findSome?_eq_none_iff]
    intro stage _
    rw [fine stage]
    rfl

/-- Once its journal can be opened and does not make the input, a run ends well just if there is
something to print. -/
theorem JournalOpens.exits_iff (usable : invocation.JournalOpens surroundings.files)
    (found : ¬ invocation.JournalMakesInput surroundings.files)
    (read : Invocation.ofArguments arguments = .ok invocation) :
    (invocation.run surroundings).exitCode = 0 ↔
      (invocation.output? surroundings).isSome = true ∧
        (invocation.text? surroundings).isSome = true := by
  obtain ⟨opened, done⟩ := usable.opens
  have options : invocation.problemAt surroundings .options = none ↔
      ∀ name ∈ invocation.format, (OutputFormat.parse? name).isSome = true := by
    rw [problemAt, problem?_resolve_eq_none_iff]
    exact ⟨fun known => known.1,
      fun known => ⟨known, usable.level, usable.lexerLevel, usable.style⟩⟩
  rw [Invocation.exits_iff read, isSome_output?_iff, ← options,
    ← problemAt_input_eq_none_iff done found]
  constructor
  · intro fine
    exact ⟨⟨fine .settings, fine .options⟩, fine .input⟩
  · intro fine stage
    obtain ⟨⟨settings, options⟩, input⟩ := fine
    cases stage with
    | arguments => rfl
    | settings => exact settings
    | options => exact options
    | journal => exact problem?_eq_none_iff.mpr usable.opens
    | input => exact input

theorem journalOpens_of_exits (read : Invocation.ofArguments arguments = .ok invocation)
    (exits : (invocation.run surroundings).exitCode = 0) :
    invocation.JournalOpens surroundings.files := by
  have fine := (Invocation.exits_iff read).mp exits
  obtain ⟨_, level, lexerLevel, style⟩ := problem?_resolve_eq_none_iff.mp (fine .options)
  exact ⟨level, lexerLevel, style, problem?_eq_none_iff.mp (fine .journal)⟩

theorem not_journalMakesInput_of_apart (apart : ¬ invocation.JournalInInput files) :
    ¬ invocation.JournalMakesInput files :=
  fun ⟨path, place, named, here, leads, _⟩ => apart ⟨path, place, named, here, leads⟩

namespace SameButJournal

variable {first second : Invocation}

theorem text?_eq (same : SameButJournal first second) (surroundings : Surroundings) :
    first.text? surroundings = second.text? surroundings := by
  rw [text?, text?, inputFile?, inputFile?, same.input]

theorem output?_eq (same : SameButJournal first second) (surroundings : Surroundings) :
    first.output? surroundings = second.output? surroundings := by
  have format : first.format? = second.format? := by
    funext settings
    rw [format?, format?, same.format]
  rw [output?, output?, same.config, same.showSpans, format]

end SameButJournal

end Invocation

theorem run_of_read (read : Invocation.ofArguments arguments = .ok invocation) :
    run arguments surroundings = invocation.run surroundings := by
  rw [run, read]

/-- The output of a run that ends well are the tokens of its text in the form asked for. -/
theorem Completes.output_eq (done : Completes arguments surroundings invocation)
    (unprinted : ¬ invocation.JournalPrinted surroundings.files) :
    ∃ text settings, invocation.text? surroundings = some text ∧
      invocation.output? surroundings = some settings ∧
      (run arguments surroundings).output = render settings (tokenize text) ++ ['\n'] := by
  have exits := done.exits
  rw [run_of_read done.read] at exits ⊢
  have fine := (Invocation.exits_iff done.read).mp exits
  have prepares := problem?_prepare invocation surroundings
  rw [fine .settings, fine .options] at prepares
  obtain ⟨options, prepared⟩ := problem?_eq_none_iff.mp prepares
  obtain ⟨opened, journal⟩ := problem?_eq_none_iff.mp (fine .journal)
  obtain ⟨log, begun, _, completes⟩ := exists_begun prepared journal
  obtain ⟨text, taken⟩ := problem?_eq_none_iff.mp (begun.problem.trans (fine .input))
  obtain ⟨last, ending, file, ends⟩ := completes text taken
  have named : invocation.text? surroundings = some text := by
    apply (Invocation.readInput_eq_ok_iff_text? begun.journal.grown ?_).mp taken
    intro path isInput place kept leads
    rw [begun.file] at kept
    rw [begun.locate] at leads
    exact done.apart ⟨path, place, isInput, kept, leads⟩
  have nothing : last.printed = [] := by
    apply ending.silent
    rwa [file, begun.file]
  refine ⟨text, options.output, named, Invocation.output?_of_prepare prepared, ?_⟩
  rw [ends, nothing, List.nil_append]

namespace ChangesJournal

/-- A run that ends well still does with another journal. -/
theorem exits (changes : ChangesJournal arguments arguments' surroundings invocation invocation')
    (found : ¬ invocation.JournalMakesInput surroundings.files)
    (exits : (run arguments surroundings).exitCode = 0) :
    (run arguments' surroundings).exitCode = 0 := by
  rw [run_of_read changes.read] at exits
  have opens := Invocation.journalOpens_of_exits changes.read exits
  rw [opens.exits_iff found changes.read, changes.same.output?_eq, changes.same.text?_eq] at exits
  rw [run_of_read changes.read', changes.opens.exits_iff
    (Invocation.not_journalMakesInput_of_apart changes.apart) changes.read']
  exact exits

/-- A run that ends well with another journal ends well with its own, once that can be opened. -/
theorem exits_back (changes : ChangesJournal arguments arguments' surroundings invocation invocation')
    (opens : invocation.JournalOpens surroundings.files)
    (exits : (run arguments' surroundings).exitCode = 0) :
    (run arguments surroundings).exitCode = 0 := by
  rw [run_of_read changes.read', changes.opens.exits_iff
    (Invocation.not_journalMakesInput_of_apart changes.apart) changes.read',
    ← changes.same.output?_eq, ← changes.same.text?_eq] at exits
  obtain ⟨opened, done⟩ := opens.opens
  have found := Invocation.not_journalMakesInput_of_text? done exits.2
  rw [run_of_read changes.read, opens.exits_iff found changes.read]
  exact exits

end ChangesJournal

/-- Runs that complete print the same for the same text in the same form, whatever their journals,
unless these are printed as well.  Another journal that can be opened and is apart from the input
makes no run fail, unless the run has made its input for its journal, and makes no run end well that
has failed, unless that could not open its own journal. -/
theorem journal_does_not_interfere (arguments arguments' : List String)
    (surroundings surroundings' : Surroundings) (invocation invocation' : Invocation) :
    (Completes arguments surroundings invocation → Completes arguments' surroundings' invocation' →
      ¬ invocation.JournalPrinted surroundings.files →
      ¬ invocation'.JournalPrinted surroundings'.files →
      invocation.text? surroundings = invocation'.text? surroundings' →
      invocation.output? surroundings = invocation'.output? surroundings' →
      (run arguments surroundings).output = (run arguments' surroundings').output) ∧
    (ChangesJournal arguments arguments' surroundings invocation invocation' →
      ((run arguments surroundings).exitCode = 0 →
        ¬ invocation.JournalMakesInput surroundings.files →
        (run arguments' surroundings).exitCode = 0) ∧
      ((run arguments surroundings).exitCode ≠ 0 → invocation.JournalOpens surroundings.files →
        (run arguments' surroundings).exitCode ≠ 0)) := by
  constructor
  · intro done done' unprinted unprinted' sameText sameForm
    obtain ⟨text, settings, named, asked, printed⟩ := done.output_eq unprinted
    obtain ⟨text', settings', named', asked', printed'⟩ := done'.output_eq unprinted'
    obtain rfl : text = text' := Option.some.inj (named ▸ named' ▸ sameText)
    obtain rfl : settings = settings' := Option.some.inj (asked ▸ asked' ▸ sameForm)
    rw [printed, printed']
  · intro changes
    constructor
    · intro exits found
      exact changes.exits found exits
    · intro fails opens exits
      exact fails (changes.exits_back opens exits)

theorem Invocation.not_journalInInput_of_silent (silent : invocation.logFile = none) :
    ¬ invocation.JournalInInput files := by
  intro inInput
  obtain ⟨_, _, _, kept, _⟩ := inInput
  simp [journalPlace, silent] at kept

theorem completes_of_opens (read : Invocation.ofArguments arguments = .ok invocation)
    (opens : invocation.JournalOpens surroundings.files)
    (apart : ¬ invocation.JournalInInput surroundings.files)
    (asked : (invocation.output? surroundings).isSome = true)
    (named : (invocation.text? surroundings).isSome = true) :
    Completes arguments surroundings invocation := by
  refine ⟨read, ?_, apart⟩
  rw [run_of_read read, opens.exits_iff (Invocation.not_journalMakesInput_of_apart apart) read]
  exact ⟨asked, named⟩

/-- A journal that is kept elsewhere than where the only file is. -/
theorem completes_besideOneFile {path : String} {opened : Files} {place : Place}
    (read : Invocation.ofArguments arguments =
      .ok { input := some "c", logLevel := some "debug", logFile := some path })
    (opens : besideOneFile.files.openToAppend path = .ok (opened, place))
    (leads : opened.locate false "c" = .ok ["c"]) (elsewhere : place ≠ ["c"]) :
    Completes arguments besideOneFile
      { input := some "c", logLevel := some "debug", logFile := some path } := by
  refine completes_of_opens read ⟨?_, ?_, ?_, ⟨opened, ?_⟩⟩ ?_ rfl rfl
  · rintro name ⟨⟩
    decide
  · rintro name ⟨⟩
  · rintro name ⟨⟩
  · simp only [Invocation.openJournal, opens]
  · intro inInput
    obtain ⟨path', place', named, here, leads'⟩ := inInput
    obtain rfl : "c" = path' := Option.some.inj named
    simp [Invocation.journalPlace, opens, Except.toOption] at here
    simp [Invocation.filesAtInput, Invocation.openJournal, opens, Except.toOption, leads] at leads'
    exact elsewhere (here.trans leads'.symm)

theorem journalOpens_of_silent {input : Option String} :
    Invocation.JournalOpens { input } files :=
  ⟨nofun, nofun, nofun, ⟨files, rfl⟩⟩

theorem completes_c : Completes ["c"] besideOneFile { input := some "c" } :=
  completes_of_opens rfl journalOpens_of_silent (Invocation.not_journalInInput_of_silent rfl) rfl rfl

theorem completes_c_printed :
    Completes ["c", "--log-level", "debug", "--log-file", "/dev/stdout"] besideOneFile
      { input := some "c", logLevel := some "debug", logFile := some "/dev/stdout" } :=
  completes_besideOneFile rfl
    (rfl : besideOneFile.files.openToAppend "/dev/stdout" = .ok (_, ["dev", "stdout"])) rfl
    (by decide)

/-- The journal comes first, and it starts with the time. -/
theorem head?_output_c_printed :
    (run ["c", "--log-level", "debug", "--log-file", "/dev/stdout"] besideOneFile).output.head? =
      some '0' := by
  let invocation : Invocation :=
    { input := some "c", logLevel := some "debug", logFile := some "/dev/stdout" }
  let options : RunOptions :=
    { output := default, levels := { overall := .debug, lexer := none }, logStyle := .compact
      logFile := some "/dev/stdout" }
  let log : Log :=
    { options, time := "0", written := [], printed := [], files := besideOneFile.files
      file := some ["dev", "stdout"] }
  have prepared : prepare invocation besideOneFile.files = .ok options := rfl
  have started : Log.start options besideOneFile.time besideOneFile.files = .ok log := rfl
  have reads : readInput (log.record [optionsEvent options]).files besideOneFile.standardInput
      invocation = .ok "x 1".toList := rfl
  have sink : log.sink? = some .output := rfl
  have enabled : (Filter.ofLevels log.options.levels).enables programTarget .debug = true := rfl
  rw [run_of_read completes_c_printed.read, Invocation.run_of_read_input prepared started reads]
  simp only [Log.printed_record _ (tokenizeWithEvents _).1,
    Log.printed_record_of_enabled (optionsEvent options) sink enabled, Event.fileLine, log]
  rfl

/-- A journal on standard output is printed in front of the tokens, a journal may make the input of its
run, and a run may fail for its journal alone. -/
theorem journal_can_interfere :
    (¬ ∀ arguments arguments' surroundings surroundings' invocation invocation',
      Completes arguments surroundings invocation → Completes arguments' surroundings' invocation' →
      invocation.text? surroundings = invocation'.text? surroundings' →
      invocation.output? surroundings = invocation'.output? surroundings' →
      (run arguments surroundings).output = (run arguments' surroundings').output) ∧
    (¬ ∀ arguments arguments' surroundings invocation invocation',
      ChangesJournal arguments arguments' surroundings invocation invocation' →
      (run arguments surroundings).exitCode = 0 → (run arguments' surroundings).exitCode = 0) ∧
    ¬ ∀ arguments arguments' surroundings invocation invocation',
      ChangesJournal arguments arguments' surroundings invocation invocation' →
      (run arguments surroundings).exitCode ≠ 0 → (run arguments' surroundings).exitCode ≠ 0 := by
  refine ⟨fun independent => ?_, fun independent => ?_, fun independent => ?_⟩
  · have same := independent _ _ _ _ _ _ completes_c completes_c_printed rfl rfl
    obtain ⟨text, settings, named, asked, printed⟩ := completes_c.output_eq nofun
    have first : (run ["c"] besideOneFile).output.head? = some 'x' := by
      rw [printed, ← Option.some.inj named, ← Option.some.inj asked]
      decide +kernel
    rw [same, head?_output_c_printed] at first
    exact absurd first (by decide)
  · have changes : ChangesJournal ["j", "--log-file", "j"] ["j"] besideOneFile
        { input := some "j", logFile := some "j" } { input := some "j" } :=
      ⟨rfl, rfl, ⟨rfl, rfl, rfl, rfl⟩, journalOpens_of_silent,
        Invocation.not_journalInInput_of_silent rfl⟩
    have exits : (run ["j", "--log-file", "j"] besideOneFile).exitCode = 0 := by
      rw [run_of_read changes.read, Invocation.exits_iff changes.read]
      intro stage
      cases stage <;> rfl
    have exits' := independent _ _ _ _ _ changes exits
    rw [run_of_read changes.read', Invocation.exits_iff changes.read'] at exits'
    exact nomatch exits' .input
  · have changes : ChangesJournal ["c", "--log-level", "loud"] ["c"] besideOneFile
        { input := some "c", logLevel := some "loud" } { input := some "c" } :=
      ⟨rfl, rfl, ⟨rfl, rfl, rfl, rfl⟩, journalOpens_of_silent,
        Invocation.not_journalInInput_of_silent rfl⟩
    refine independent _ _ _ _ _ changes ?_ completes_c.exits
    intro exits
    rw [run_of_read changes.read, Invocation.exits_iff changes.read] at exits
    exact nomatch exits .options

/-- A run without any journal, and one with a journal next to the input. -/
theorem journal_besideOneFile_does_not_interfere :
    (run ["c"] besideOneFile).output =
        (run ["c", "--log-level", "debug", "--log-file", "j"] besideOneFile).output ∧
      (run ["c", "--log-level", "debug", "--log-file", "j"] besideOneFile).exitCode = 0 ∧
      (run ["--format", "x", "--log-level", "debug"] besideOneFile).exitCode ≠ 0 := by
  have logged : Completes ["c", "--log-level", "debug", "--log-file", "j"] besideOneFile
      { input := some "c", logLevel := some "debug", logFile := some "j" } :=
    completes_besideOneFile rfl (rfl : besideOneFile.files.openToAppend "j" = .ok (_, ["j"])) rfl
      (by decide)
  have changes : ChangesJournal ["c"] ["c", "--log-level", "debug", "--log-file", "j"] besideOneFile
      { input := some "c" } { input := some "c", logLevel := some "debug", logFile := some "j" } :=
    ⟨completes_c.read, logged.read, ⟨rfl, rfl, rfl, rfl⟩,
      Invocation.journalOpens_of_exits logged.read (run_of_read logged.read ▸ logged.exits),
      logged.apart⟩
  have changes' : ChangesJournal ["--format", "x"] ["--format", "x", "--log-level", "debug"]
      besideOneFile { format := some "x" } { format := some "x", logLevel := some "debug" } :=
    ⟨rfl, rfl, ⟨rfl, rfl, rfl, rfl⟩, ⟨by rintro name ⟨⟩; decide, nofun, nofun, ⟨_, rfl⟩⟩,
      Invocation.not_journalInInput_of_silent rfl⟩
  have fails : (run ["--format", "x"] besideOneFile).exitCode ≠ 0 := by
    intro exits
    rw [run_of_read changes'.read, Invocation.exits_iff changes'.read] at exits
    exact nomatch exits .options
  obtain ⟨sameOutput, sameEnd⟩ := journal_does_not_interfere ["c"]
    ["c", "--log-level", "debug", "--log-file", "j"] besideOneFile besideOneFile _ _
  exact ⟨sameOutput completes_c logged nofun nofun rfl rfl,
    (sameEnd changes).1 completes_c.exits
      (Invocation.not_journalMakesInput_of_apart completes_c.apart),
    ((journal_does_not_interfere _ _ besideOneFile besideOneFile _ _).2 changes').2 fails
      ⟨nofun, nofun, nofun, ⟨_, rfl⟩⟩⟩

end TokenStream
