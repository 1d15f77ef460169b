import TokenStream.Text.LowerCase
import TokenStream.Journal.Layout

namespace TokenStream

open TokenStream.Journal

inductive OutputFormat where
  | plain
  | lines
  | json
deriving Repr, DecidableEq

instance : Inhabited OutputFormat := ⟨.plain⟩

/-- The value that a name stands for when the case of its letters is ignored. -/
def findName (names : List (String × α)) (name : String) : Option α :=
  let wanted := Text.lowerCase name.toList
  (names.find? fun (known, _) => known.toList == wanted).map (·.2)

namespace OutputFormat

def names : List (String × OutputFormat) :=
  [("plain", .plain), ("lines", .lines), ("json", .json)]

def parse? (name : String) : Option OutputFormat :=
  findName names name

def name : OutputFormat → String
  | .plain => "plain"
  | .lines => "lines"
  | .json => "json"

end OutputFormat

/-- How much a journal is to hold, as a configuration file says it. -/
inductive LogLevel where
  | error
  | warn
  | info
  | debug
  | trace
deriving Repr, DecidableEq

namespace LogLevel

def names : List (String × LogLevel) :=
  [("error", .error), ("warn", .warn), ("info", .info), ("debug", .debug), ("trace", .trace)]

/-- On the command line a silent journal may be asked for, which still holds errors. -/
def parse? (name : String) : Option LogLevel :=
  findName (("silent", .error) :: names) name

/-- The level at which the journal is kept. -/
def level : LogLevel → Level
  | .error => .error
  | .warn => .warn
  | .info => .info
  | .debug => .debug
  | .trace => .trace

end LogLevel

namespace Journal.Style

def names : List (String × Style) :=
  [("pretty", .pretty), ("compact", .compact), ("json", .json)]

def parse? (name : String) : Option Style :=
  findName names name

def name : Style → String
  | .pretty => "pretty"
  | .compact => "compact"
  | .json => "json"

end Journal.Style

end TokenStream
