import TokenStream.Program
import TokenStream.Proofs.Files
import TokenStream.Proofs.Layers

namespace TokenStream

open TokenStream.Journal

inductive Stage where
  | arguments
  | settings
  | options
  | journal
  | input
deriving Repr, DecidableEq

/-- What ends a run before anything is printed for its input.  Asking for help or for the version
halts a run as well, without a fault. -/
inductive Halt where
  | refused (refusal : Refusal)
  | failed (problem : Problem)
deriving Repr, DecidableEq

namespace Halt

def exitCode : Halt → Nat
  | .refused refusal => refusal.exitCode
  | .failed _ => 1

/-- The last words on standard error. -/
def report (halt : Halt) (arguments : List String) (surroundings : Surroundings) : List Char :=
  match halt with
  | .refused .help | .refused .version => []
  | .refused fault => (surroundings.complaint arguments fault).toList
  | .failed problem => ("Error: " ++ problem.message ++ "\n").toList

end Halt

def problem? : Except Problem α → Option Problem
  | .ok _ => none
  | .error problem => some problem

namespace Invocation

/-- The files once the journal has been opened, if there is one. -/
def openJournal (invocation : Invocation) (files : Files) : Except Problem Files :=
  match invocation.logFile with
  | none => .ok files
  | some path =>
      match files.openToAppend path with
      | .error cause => .error (.logUnusable path cause)
      | .ok (opened, _) => .ok opened

/-- The files that the input is looked up in. -/
def filesAtInput (invocation : Invocation) (files : Files) : Files :=
  (invocation.openJournal files).toOption.getD files

/-- What goes wrong at a stage, whatever has gone wrong before.  Names of options are looked up
without regard to the settings. -/
def problemAt (invocation : Invocation) (surroundings : Surroundings) : Stage → Option Problem
  | .arguments => none
  | .settings => problem? (loadSettings surroundings.files invocation.config)
  | .options => problem? (RunOptions.resolve invocation.overrides default)
  | .journal => problem? (invocation.openJournal surroundings.files)
  | .input =>
      problem? (readInput (invocation.filesAtInput surroundings.files) surroundings.standardInput
        invocation)

/-- The place of the journal's file, where it can be opened. -/
def journalPlace (invocation : Invocation) (files : Files) : Option Place := do
  let path ← invocation.logFile
  let (_, place) ← (files.openToAppend path).toOption
  return place

end Invocation

def haltAt (arguments : List String) (surroundings : Surroundings) (stage : Stage) : Option Halt :=
  match Invocation.ofArguments arguments with
  | .error refusal => if stage = .arguments then some (.refused refusal) else none
  | .ok invocation => (invocation.problemAt surroundings stage).map .failed

/-- The first stage at which the run is halted. -/
def firstHalt (arguments : List String) (surroundings : Surroundings) : Option (Stage × Halt) :=
  [Stage.arguments, .settings, .options, .journal, .input].findSome? fun stage =>
    (haltAt arguments surroundings stage).map (stage, ·)

def journalPlace (arguments : List String) (files : Files) : Option Place := do
  (← (Invocation.ofArguments arguments).toOption).journalPlace files

theorem problem?_resolve_eq_head? (overrides : Overrides) (settings : FileSettings) :
    problem? (RunOptions.resolve overrides settings) = overrides.problems.head? := by
  rw [RunOptions.resolve_eq_elim]
  cases overrides.problems.head? <;> rfl

theorem problem?_resolve (overrides : Overrides) (settings settings' : FileSettings) :
    problem? (RunOptions.resolve overrides settings) =
      problem? (RunOptions.resolve overrides settings') := by
  rw [problem?_resolve_eq_head?, problem?_resolve_eq_head?]

theorem logFile_of_resolve {overrides : Overrides} {settings : FileSettings} {options : RunOptions}
    (resolved : RunOptions.resolve overrides settings = .ok options) :
    options.logFile = overrides.logFile := by
  obtain ⟨_, rfl⟩ := RunOptions.resolve_eq_ok_iff.mp resolved
  rfl

theorem logFile_of_prepare {invocation : Invocation} {files : Files} {options : RunOptions}
    (prepared : prepare invocation files = .ok options) : options.logFile = invocation.logFile := by
  obtain ⟨settings, _, resolved⟩ := bind_eq_ok_iff.mp prepared
  exact logFile_of_resolve resolved

theorem problem?_prepare (invocation : Invocation) (surroundings : Surroundings) :
    problem? (prepare invocation surroundings.files) =
      (invocation.problemAt surroundings .settings).or
        (invocation.problemAt surroundings .options) := by
  rw [prepare, Invocation.problemAt, Invocation.problemAt]
  cases loadSettings surroundings.files invocation.config with
  | error problem => rfl
  | ok settings => exact problem?_resolve invocation.overrides settings default

namespace Log

variable {log : Log} {surroundings : Surroundings}

theorem grown_record (log : Log) (events : List Event) :
    log.files.Grown log.file (log.record events).files := by
  cases kept : log.file with
  | none =>
      simp only [record, kept]
      exact .refl _ _
  | some place =>
      simp only [record, kept]
      exact Files.grown_append _ place _

theorem printed_record (log : Log) (events : List Event) :
    (log.record events).printed = log.printed ++
      log.linesFor .output ((Filter.ofLevels log.options.levels).select events) := rfl

theorem printed_record_of_enabled (event : Event) (sink : log.sink? = some .output)
    (enabled : (Filter.ofLevels log.options.levels).enables event.target event.level = true) :
    (log.record [event]).printed = log.printed ++ event.fileLine log.time := by
  have kept : (Filter.ofLevels log.options.levels).select [event] = [event] := by
    simp [Filter.select, enabled]
  rw [printed_record, linesFor, if_pos sink, kept, List.flatMap_singleton]

/-- A journal under way in a run.  Only where it is kept may something have grown, and only if that is
standard output has anything been printed. -/
structure Over (log : Log) (surroundings : Surroundings) : Prop where
  time : log.time = surroundings.time
  grown : surroundings.files.Grown log.file log.files
  lines : ∃ events : List Event, log.printed = events.flatMap (Event.fileLine surroundings.time)
  silent : log.file.bind surroundings.files.sink? ≠ some .output → log.printed = []

theorem Over.sink?_eq (begun : log.Over surroundings) :
    log.sink? = log.file.bind surroundings.files.sink? := by
  rw [sink?, funext begun.grown.sink?_eq]

theorem Over.record (begun : log.Over surroundings) (events : List Event) :
    (log.record events).Over surroundings where
  time := begun.time
  grown := begun.grown.trans (log.grown_record events)
  lines := by
    obtain ⟨printed, before⟩ := begun.lines
    rw [printed_record, before, linesFor, begun.time]
    split
    · exact ⟨printed ++ (Filter.ofLevels log.options.levels).select events, by
        rw [List.flatMap_append]⟩
    · exact ⟨printed, by rw [List.append_nil]⟩
  silent hidden := by
    have hidden : log.file.bind surroundings.files.sink? ≠ some .output := hidden
    rw [printed_record, begun.silent hidden, linesFor, begun.sink?_eq, if_neg hidden, List.append_nil]

/-- A journal that can be opened starts with nothing written and its file in place. -/
theorem start_eq {options : RunOptions} (invocation : Invocation) (kept : options.logFile = invocation.logFile)
    (time : String) (files : Files) :
    Log.start options time files =
      (invocation.openJournal files).map fun opened =>
        { options, time, written := [], printed := [], files := opened,
          file := invocation.journalPlace files } := by
  rw [Log.start, kept, Invocation.openJournal]
  cases named : invocation.logFile with
  | none => simp [Except.map, Invocation.journalPlace, named]
  | some path =>
      simp only [Invocation.journalPlace, named]
      cases opened : files.openToAppend path with
      | error cause => rfl
      | ok after => simp [Except.map, opened, Except.toOption]

end Log

variable {invocation : Invocation} {surroundings : Surroundings} {options : RunOptions}
variable {files opened : Files}

theorem journal_cases (done : invocation.openJournal files = .ok opened) :
    (opened = files ∧ invocation.journalPlace files = none) ∨
      ∃ written place, invocation.logFile = some written ∧
        files.openToAppend written = .ok (opened, place) ∧
        invocation.journalPlace files = some place := by
  rw [Invocation.openJournal] at done
  cases named : invocation.logFile with
  | none =>
      rw [named] at done
      cases done
      exact .inl ⟨rfl, by simp [Invocation.journalPlace, named]⟩
  | some written =>
      simp only [named] at done
      cases appended : files.openToAppend written with
      | error cause =>
          rw [appended] at done
          cases done
      | ok after =>
          rw [appended] at done
          cases done
          exact .inr ⟨written, after.2, rfl, appended,
            by simp [Invocation.journalPlace, named, appended, Except.toOption]⟩

/-- Opening the journal changes nothing but its file. -/
theorem grown_openJournal (done : invocation.openJournal files = .ok opened) :
    files.Grown (invocation.journalPlace files) opened := by
  obtain ⟨rfl, _⟩ | ⟨written, place, _, appended, kept⟩ := journal_cases done
  · exact .refl _ _
  · rw [kept]
    exact Files.grown_openToAppend appended

/-- The journal's file is there once it has been opened. -/
theorem kept_openJournal (done : invocation.openJournal files = .ok opened) :
    opened.Kept (invocation.journalPlace files) := by
  intro there here
  obtain ⟨_, nowhere⟩ | ⟨written, place, _, appended, kept⟩ := journal_cases done
  · rw [nowhere] at here
    cases here
  · obtain rfl : place = there := Option.some.inj (kept.symm.trans here)
    obtain ⟨rfl, known⟩ | ⟨rfl, _⟩ := Files.openToAppend_cases appended
    · exact known
    · rw [Files.node?_insert_same]
      rfl

theorem filesAtInput_of_opened (done : invocation.openJournal files = .ok opened) :
    invocation.filesAtInput files = opened := by
  rw [Invocation.filesAtInput, done]
  rfl

theorem problem?_readInputFile {files' : Files} {path : String}
    (same : (files.readText path).map (fun _ => ()) = (files'.readText path).map fun _ => ()) :
    problem? (readInputFile files path) = problem? (readInputFile files' path) := by
  rw [readInputFile, readInputFile]
  cases first : files.readText path <;> cases second : files'.readText path
  all_goals simp_all [Except.map, problem?]

/-- A journal's own lines make no input readable or unreadable. -/
theorem problem?_readInput {after : Files} {place : Option Place} (grown : files.Grown place after)
    (kept : files.Kept place) (standardInput : ByteArray) (invocation : Invocation) :
    problem? (readInput after standardInput invocation) =
      problem? (readInput files standardInput invocation) := by
  rw [readInput, readInput]
  cases invocation.inputFile? with
  | none => rfl
  | some path => exact problem?_readInputFile (grown.readText_fault kept path)

theorem Invocation.run_of_not_read {log : Log} {problem : Problem}
    (prepared : prepare invocation surroundings.files = .ok options)
    (started : Log.start options surroundings.time surroundings.files = .ok log)
    (fails : readInput (log.record [optionsEvent options]).files surroundings.standardInput
      invocation = .error problem) :
    invocation.run surroundings =
      failed (log.record [optionsEvent options]).printed (log.record [optionsEvent options]).written
        (log.record [optionsEvent options]).files problem := by
  simp only [run, prepared, started]
  rw [fails]

theorem Invocation.run_of_read_input {log : Log} {text : List Char}
    (prepared : prepare invocation surroundings.files = .ok options)
    (started : Log.start options surroundings.time surroundings.files = .ok log)
    (reads : readInput (log.record [optionsEvent options]).files surroundings.standardInput
      invocation = .ok text) :
    let last := (log.record [optionsEvent options]).record (tokenizeWithEvents text).1
    invocation.run surroundings =
      { exitCode := 0
        output := last.printed ++ render options.output (tokenize text) ++ ['\n']
        errors := last.written
        files := last.files } := by
  simp only [run, prepared, started]
  rw [reads]
  rfl

/-- A journal under way, before the input is read. -/
structure Begun (invocation : Invocation) (surroundings : Surroundings) (log : Log) : Prop where
  journal : log.Over surroundings
  file : log.file = invocation.journalPlace surroundings.files
  locate : ∀ path, log.files.locate false path =
    (invocation.filesAtInput surroundings.files).locate false path
  problem : problem? (readInput log.files surroundings.standardInput invocation) =
    invocation.problemAt surroundings .input

/-- What happens behind the opening of the journal is settled by the input. -/
theorem exists_begun (prepared : prepare invocation surroundings.files = .ok options)
    (done : invocation.openJournal surroundings.files = .ok opened) :
    ∃ log, Begun invocation surroundings log ∧
      (∀ problem, readInput log.files surroundings.standardInput invocation = .error problem →
        invocation.run surroundings = failed log.printed log.written log.files problem) ∧
      (∀ text, readInput log.files surroundings.standardInput invocation = .ok text →
        ∃ last : Log, last.Over surroundings ∧ last.file = log.file ∧
          invocation.run surroundings =
            { exitCode := 0
              output := last.printed ++ render options.output (tokenize text) ++ ['\n']
              errors := last.written, files := last.files }) := by
  let first : Log :=
    { options, time := surroundings.time, written := [], printed := [], files := opened,
      file := invocation.journalPlace surroundings.files }
  have started : Log.start options surroundings.time surroundings.files = .ok first := by
    rw [Log.start_eq invocation (logFile_of_prepare prepared), done]
    rfl
  have begun : first.Over surroundings :=
    { time := rfl, grown := grown_openJournal done, lines := ⟨[], rfl⟩, silent := fun _ => rfl }
  let log := first.record [optionsEvent options]
  have grown : opened.Grown first.file log.files := first.grown_record _
  have kept : opened.Kept first.file := kept_openJournal done
  refine ⟨log, ⟨begun.record _, rfl, ?_, ?_⟩, ?_, ?_⟩
  · intro path
    rw [filesAtInput_of_opened done]
    exact grown.locate_eq kept false path
  · rw [Invocation.problemAt, filesAtInput_of_opened done]
    exact problem?_readInput grown kept _ _
  · intro problem fails
    exact Invocation.run_of_not_read prepared started fails
  · intro text reads
    exact ⟨log.record (tokenizeWithEvents text).1, (begun.record _).record _, rfl,
      Invocation.run_of_read_input prepared started reads⟩

/-- The end of a run whose journal is kept at the place, if it gets that far, and that is halted at the
stage or not. -/
structure Ends (arguments : List String) (surroundings : Surroundings) (result : Result)
    (place : Option Place) (halted : Option (Stage × Halt)) : Prop where
  /-- What a run prints that fails are lines of its journal. -/
  noTokens : result.exitCode ≠ 0 →
    ∃ events : List Event, result.output = events.flatMap (Event.fileLine surroundings.time)
  silent : result.exitCode ≠ 0 → place.bind surroundings.files.sink? ≠ some .output →
    result.output = []
  elsewhere : ∀ other, place ≠ some other →
    result.files.node? other = surroundings.files.node? other
  readings : ∀ written, (∀ there ∈ place, result.files.locate false written ≠ .ok there) →
    ∀ bytes, result.files.readBytes written = .ok bytes ↔
      surroundings.files.readBytes written = .ok bytes
  journal : ∀ there ∈ place,
    Node.Grows (surroundings.files.node? there) (result.files.node? there)
  completes : halted = none → result.exitCode = 0
  reports : ∀ stage halt, halted = some (stage, halt) → result.exitCode = halt.exitCode ∧
    ∃ written, result.errors = written ++ halt.report arguments surroundings ∧
      (stage ≠ .input → written = [])
  /-- Only a run that has come to its input has opened the journal. -/
  untouched : ∀ stage halt, halted = some (stage, halt) → stage ≠ .input →
    result.files = surroundings.files ∧ (result.exitCode ≠ 0 → result.output = [])

/-- The end of a run that is halted before its journal is opened. -/
theorem ends_early {arguments : List String} {result : Result} {stage : Stage} {halt : Halt}
    (place : Option Place) (files : result.files = surroundings.files)
    (silent : result.exitCode ≠ 0 → result.output = []) (exits : result.exitCode = halt.exitCode)
    (reports : result.errors = halt.report arguments surroundings) :
    Ends arguments surroundings result place (some (stage, halt)) where
  noTokens failing := ⟨[], silent failing⟩
  silent failing _ := silent failing
  elsewhere _ _ := by rw [files]
  readings _ _ _ := by rw [files]
  journal _ _ := by
    rw [files]
    exact .same _
  completes := by rintro ⟨⟩
  reports := by
    rintro _ _ ⟨⟩
    exact ⟨exits, [], reports, fun _ => rfl⟩
  untouched _ _ _ _ := ⟨files, silent⟩

theorem ends_failed_early (stage : Stage) (problem : Problem) (arguments : List String)
    (place : Option Place) :
    Ends arguments surroundings (failed [] [] surroundings.files problem) place
      (some (stage, .failed problem)) :=
  ends_early place rfl (fun _ => rfl) rfl rfl

theorem ends_failed_late {log : Log} (begun : log.Over surroundings) (problem : Problem)
    (arguments : List String) :
    Ends arguments surroundings (failed log.printed log.written log.files problem) log.file
      (some (.input, .failed problem)) where
  noTokens _ := begun.lines
  silent _ := begun.silent
  elsewhere := begun.grown.others
  readings _ elsewhere _ := begun.grown.readBytes_iff elsewhere
  journal := begun.grown.grows
  completes := by rintro ⟨⟩
  reports := by
    rintro _ _ ⟨⟩
    exact ⟨rfl, log.written, rfl, fun late => absurd rfl late⟩
  untouched := by
    rintro _ _ ⟨⟩ late
    exact absurd rfl late

theorem ends_completed {log : Log} (begun : log.Over surroundings) (output : List Char)
    (arguments : List String) :
    Ends arguments surroundings
      { exitCode := 0, output, errors := log.written, files := log.files } log.file none where
  noTokens failing := absurd rfl failing
  silent failing := absurd rfl failing
  elsewhere := begun.grown.others
  readings _ elsewhere _ := begun.grown.readBytes_iff elsewhere
  journal := begun.grown.grows
  completes _ := rfl
  reports := by rintro _ _ ⟨⟩
  untouched := by rintro _ _ ⟨⟩

theorem problem?_eq_some_iff {attempt : Except Problem α} {problem : Problem} :
    problem? attempt = some problem ↔ attempt = .error problem := by
  cases attempt <;> simp [problem?]

theorem problem?_eq_none_iff {attempt : Except Problem α} :
    problem? attempt = none ↔ ∃ value, attempt = .ok value := by
  cases attempt <;> simp [problem?]

namespace Invocation

theorem run_of_not_prepared {problem : Problem}
    (fails : prepare invocation surroundings.files = .error problem) :
    invocation.run surroundings = failed [] [] surroundings.files problem := by
  rw [run, fails]

theorem run_of_not_opened {problem : Problem}
    (prepared : prepare invocation surroundings.files = .ok options)
    (fails : invocation.openJournal surroundings.files = .error problem) :
    invocation.run surroundings = failed [] [] surroundings.files problem := by
  have started : Log.start options surroundings.time surroundings.files = .error problem := by
    rw [Log.start_eq invocation (logFile_of_prepare prepared), fails]
    rfl
  simp only [run, prepared, started]

theorem problemAt_arguments (invocation : Invocation) (surroundings : Surroundings) :
    invocation.problemAt surroundings .arguments = none := rfl

theorem firstHalt_eq {arguments : List String}
    (read : Invocation.ofArguments arguments = .ok invocation) :
    firstHalt arguments surroundings =
      [Stage.settings, .options, .journal, .input].findSome? fun stage =>
        (invocation.problemAt surroundings stage).map fun problem => (stage, .failed problem) := by
  simp only [firstHalt, haltAt, read, Option.map_map, Function.comp_def, List.findSome?_cons,
    problemAt_arguments, Option.map_none]

theorem ends_run {arguments : List String} (invocation : Invocation) (surroundings : Surroundings)
    (read : Invocation.ofArguments arguments = .ok invocation) :
    Ends arguments surroundings (invocation.run surroundings)
      (invocation.journalPlace surroundings.files) (firstHalt arguments surroundings) := by
  have halts : firstHalt arguments surroundings = _ := firstHalt_eq read
  have prepares := problem?_prepare invocation surroundings
  cases settings : invocation.problemAt surroundings .settings with
  | some problem =>
      simp only [settings, List.findSome?_cons, Option.map_some] at halts prepares
      rw [halts, run_of_not_prepared (problem?_eq_some_iff.mp prepares)]
      exact ends_failed_early ..
  | none =>
  cases options : invocation.problemAt surroundings .options with
  | some problem =>
      simp only [settings, options, List.findSome?_cons, Option.map_some, Option.map_none,
        Option.none_or] at halts prepares
      rw [halts, run_of_not_prepared (problem?_eq_some_iff.mp prepares)]
      exact ends_failed_early ..
  | none =>
  simp only [settings, options, Option.none_or] at prepares
  obtain ⟨chosen, prepared⟩ := problem?_eq_none_iff.mp prepares
  cases journal : invocation.problemAt surroundings .journal with
  | some problem =>
      simp only [settings, options, journal, List.findSome?_cons, Option.map_some,
        Option.map_none] at halts
      rw [halts, run_of_not_opened prepared (problem?_eq_some_iff.mp journal)]
      exact ends_failed_early ..
  | none =>
  obtain ⟨opened, done⟩ := problem?_eq_none_iff.mp journal
  obtain ⟨log, begun, fails, completes⟩ := exists_begun prepared done
  cases input : invocation.problemAt surroundings .input with
  | some problem =>
      simp only [settings, options, journal, input, List.findSome?_cons, Option.map_some,
        Option.map_none] at halts
      rw [halts, ← begun.file, fails problem (problem?_eq_some_iff.mp (begun.problem.trans input))]
      exact ends_failed_late begun.journal problem arguments
  | none =>
      simp only [settings, options, journal, input, List.findSome?_cons, Option.map_none,
        List.findSome?_nil] at halts
      obtain ⟨text, read⟩ := problem?_eq_none_iff.mp (begun.problem.trans input)
      obtain ⟨last, grows, file, ends⟩ := completes text read
      rw [halts, ← begun.file, ← file, ends]
      exact ends_completed grows _ arguments

end Invocation

/-- A run finds one file, and a device for its standard output. -/
def besideOneFile : Surroundings :=
  let root := (Files.bare []).insert ["dev"] .directory
  { files := (root.insert ["dev", "stdout"] (.device .empty .output)).insert ["c"]
      (.file "x 1".toUTF8)
    standardInput := .empty
    time := "0"
    complaint := fun _ _ => "" }

end TokenStream
