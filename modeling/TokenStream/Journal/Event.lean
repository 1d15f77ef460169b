namespace TokenStream.Journal

/-- How urgent an event is, from the most to the least urgent. -/
inductive Level where
  | error
  | warn
  | info
  | debug
  | trace
deriving Repr, DecidableEq

namespace Level

def verbosity : Level → Nat
  | .error => 1
  | .warn => 2
  | .info => 3
  | .debug => 4
  | .trace => 5

/-- Whether a journal kept at the first level records an event of the second. -/
def records (limit level : Level) : Bool :=
  level.verbosity ≤ limit.verbosity

def name : Level → String
  | .error => "error"
  | .warn => "warn"
  | .info => "info"
  | .debug => "debug"
  | .trace => "trace"

def capitals : Level → String
  | .error => "ERROR"
  | .warn => "WARN"
  | .info => "INFO"
  | .debug => "DEBUG"
  | .trace => "TRACE"

end Level

/-- A value in an event: a number, words that are shown as they are, or a piece of text that is
shown between quotation marks. -/
inductive FieldValue where
  | number (value : Nat)
  | words (value : String)
  | text (value : List Char)
deriving Repr, DecidableEq

structure Event where
  level : Level
  target : String
  message : String
  fields : List (String × FieldValue)
deriving Repr, DecidableEq

def lexerTarget : String := "toklex::lexer"

def scannerTarget : String := "toklex::lexer::scanner"

def programTarget : String := "toklex::cli"

end TokenStream.Journal
