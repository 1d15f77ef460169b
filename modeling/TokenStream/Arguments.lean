import TokenStream.Settings.Options

namespace TokenStream

inductive Slot where
  | input
  | config
  | format
  | logLevel
  | lexerLogLevel
  | logFormat
  | logFile
deriving Repr, DecidableEq

/-- Slots for the path of a file, which may not be empty. -/
def Slot.isPath : Slot → Bool
  | .input | .config | .logFile => true
  | .format | .logLevel | .lexerLogLevel | .logFormat => false

structure Invocation where
  input : Option String := none
  config : Option String := none
  format : Option String := none
  spans : Bool := false
  noSpans : Bool := false
  logLevel : Option String := none
  lexerLogLevel : Option String := none
  logFormat : Option String := none
  logFile : Option String := none
deriving Repr, DecidableEq

namespace Invocation

def get (invocation : Invocation) : Slot → Option String
  | .input => invocation.input
  | .config => invocation.config
  | .format => invocation.format
  | .logLevel => invocation.logLevel
  | .lexerLogLevel => invocation.lexerLogLevel
  | .logFormat => invocation.logFormat
  | .logFile => invocation.logFile

def set (invocation : Invocation) (slot : Slot) (value : String) : Invocation :=
  match slot with
  | .input => { invocation with input := some value }
  | .config => { invocation with config := some value }
  | .format => { invocation with format := some value }
  | .logLevel => { invocation with logLevel := some value }
  | .lexerLogLevel => { invocation with lexerLogLevel := some value }
  | .logFormat => { invocation with logFormat := some value }
  | .logFile => { invocation with logFile := some value }

@[simp]
theorem get_set_same (invocation : Invocation) (slot : Slot) (value : String) :
    (invocation.set slot value).get slot = some value := by
  cases slot <;> rfl

theorem get_set_other (invocation : Invocation) {slot other : Slot} (value : String)
    (different : other ≠ slot) :
    (invocation.set slot value).get other = invocation.get other := by
  cases slot <;> cases other <;> first | rfl | contradiction

/-- Whether the flag for places or the one against them is up. -/
def flagged (invocation : Invocation) (shown : Bool) : Bool :=
  if shown then invocation.spans else invocation.noSpans

/-- Puts one of the two flags up and takes the other one down. -/
def raise (invocation : Invocation) (shown : Bool) : Invocation :=
  { invocation with spans := shown, noSpans := !shown }

def showSpans (invocation : Invocation) : Option Bool :=
  match invocation.spans, invocation.noSpans with
  | true, _ => some true
  | false, true => some false
  | false, false => none

def overrides (invocation : Invocation) : Overrides :=
  { format := invocation.format
    showSpans := invocation.showSpans
    logLevel := invocation.logLevel
    lexerLogLevel := invocation.lexerLogLevel
    logFormat := invocation.logFormat
    logFile := invocation.logFile }

/-- The input file, unless it is the path that stands for standard input. -/
def inputFile? (invocation : Invocation) : Option String :=
  invocation.input.filter fun path => Path.components path != Path.components "-"

end Invocation

inductive Refusal where
  | unknownArgument
  | invalidValue
  | argumentConflict
  | tooManyValues
  | help
  | version
deriving Repr, DecidableEq

inductive OptionKind where
  | value (slot : Slot)
  | spans (shown : Bool)
  | help
  | version
deriving Repr, DecidableEq

def longOptions : List (String × OptionKind) :=
  [("config", .value .config),
   ("format", .value .format),
   ("spans", .spans true),
   ("no-spans", .spans false),
   ("log-level", .value .logLevel),
   ("lexer-log-level", .value .lexerLogLevel),
   ("log-format", .value .logFormat),
   ("log-file", .value .logFile),
   ("help", .help),
   ("version", .version)]

def shortOptions : List (Char × OptionKind) :=
  [('f', .value .format), ('h', .help), ('V', .version)]

structure Parse where
  invocation : Invocation
  /-- A slot kept aside, and its value if that has come. -/
  aside : Option (Slot × Option String)
deriving Repr, DecidableEq

namespace Parse

def start : Parse :=
  { invocation := {}, aside := none }

def fill (invocation : Invocation) (slot : Slot) (value : String) : Except Refusal Invocation :=
  if (invocation.get slot).isSome then .error .argumentConflict
  else if slot.isPath && value.isEmpty then .error .invalidValue
  else .ok (invocation.set slot value)

def settle (parse : Parse) : Except Refusal Parse :=
  match parse.aside with
  | none => .ok parse
  | some (_, none) => .error .invalidValue
  | some (slot, some value) => do
      return { invocation := ← fill parse.invocation slot value, aside := none }

def attach (parse : Parse) (slot : Slot) (value : String) : Except Refusal Parse := do
  let parse ← parse.settle
  return { parse with invocation := ← fill parse.invocation slot value }

def await (parse : Parse) (slot : Slot) : Except Refusal Parse := do
  let parse ← parse.settle
  return { parse with aside := some (slot, none) }

/-- A flag for places.  It may follow its opposite, but not itself. -/
def flag (parse : Parse) (shown : Bool) : Except Refusal Parse := do
  let parse ← parse.settle
  if parse.invocation.flagged shown then throw .argumentConflict
  return { parse with invocation := parse.invocation.raise shown }

def stop (parse : Parse) (refusal : Refusal) : Except Refusal Parse := do
  let _ ← parse.settle
  throw refusal

/-- An argument that belongs to no option: the input file.  There is only one. -/
def positional (parse : Parse) (value : String) : Except Refusal Parse := do
  if parse.invocation.input.isSome || parse.aside.any (·.1 == .input) then
    throw .unknownArgument
  let parse ← parse.settle
  return { parse with aside := some (.input, some value) }

def long (parse : Parse) (spelt : List Char) : Except Refusal Parse :=
  let name := spelt.takeWhile (· != '=')
  let attached : Option String :=
    match spelt.dropWhile (· != '=') with
    | [] => none
    | _ :: value => some (String.ofList value)
  match longOptions.find? fun (known, _) => known.toList == name, attached with
  | none, _ => .error .unknownArgument
  | some (_, .value slot), some value => parse.attach slot value
  | some (_, .value slot), none => parse.await slot
  | some _, some _ => .error .tooManyValues
  | some (_, .spans shown), none => parse.flag shown
  | some (_, .help), none => parse.stop .help
  | some (_, .version), none => parse.stop .version

/-- Options of one letter each after one dash.  What follows the letter of an option with a value
is its value, behind an equals sign or not. -/
def cluster (parse : Parse) : List Char → Except Refusal Parse
  | [] => .ok parse
  | letter :: letters =>
      match shortOptions.find? fun (known, _) => known == letter with
      | none => .error .unknownArgument
      | some (_, .value slot) =>
          match letters with
          | [] => parse.await slot
          | '=' :: value => parse.attach slot (String.ofList value)
          | value => parse.attach slot (String.ofList value)
      | some (_, .spans shown) => do cluster (← parse.flag shown) letters
      | some (_, .help) => do cluster (← parse.stop .help) letters
      | some (_, .version) => do cluster (← parse.stop .version) letters

/-- An argument that starts with no dash, or is nothing else: the value that is waited for, or the
input file. -/
def word (parse : Parse) (value : String) : Except Refusal Parse :=
  match parse.aside with
  | some (slot, none) => .ok { parse with aside := some (slot, some value) }
  | _ => parse.positional value

/-- Takes all arguments.  Behind two dashes alone no argument is an option. -/
def arguments (parse : Parse) : List String → Except Refusal Parse
  | [] => parse.settle
  | "--" :: rest => do (← rest.foldlM positional parse).settle
  | argument :: rest => do
      let parse ←
        match argument.toList with
        | '-' :: '-' :: spelt => parse.long spelt
        | '-' :: letter :: letters => parse.cluster (letter :: letters)
        | _ => parse.word argument
      arguments parse rest

end Parse

def Invocation.ofArguments (arguments : List String) : Except Refusal Invocation := do
  return (← Parse.start.arguments arguments).invocation

def versionText : String :=
  "toklex 0.1.0\n"

def helpLines : List String :=
  ["Toklex - split source text into lexical tokens",
   "",
   "Usage: toklex [OPTIONS] [INPUT]",
   "",
   "Arguments:",
   "  [INPUT]  Input file (\"-\" or omitted reads stdin)",
   "",
   "Options:",
   "      --config <FILE>",
   "          Configuration file path (default: ./toklex.json if present)",
   "  -f, --format <FORMAT>",
   "          Output format: plain, lines, json",
   "      --spans",
   "          Print line:column (and kind, in lines format) next to each token",
   "      --no-spans",
   "          Hide spans even if the configuration file enables them",
   "      --log-level <LOG_LEVEL>",
   "          Global log level: silent, error, warn, info, debug, trace",
   "      --lexer-log-level <LEXER_LOG_LEVEL>",
   "          Log level for the lexer only",
   "      --log-format <LOG_FORMAT>",
   "          Log output format: pretty, compact, json",
   "      --log-file <FILE>",
   "          Also append logs to this file",
   "  -h, --help",
   "          Print help",
   "  -V, --version",
   "          Print version"]

def helpText : String :=
  String.join (helpLines.map (· ++ "\n"))

end TokenStream
