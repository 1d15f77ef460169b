import TokenStream.Journal.Event
import TokenStream.Json.Value
import TokenStream.Text.Quoted

namespace TokenStream.Journal

inductive Style where
  | pretty
  | compact
  | json
deriving Repr, DecidableEq

def FieldValue.plain : FieldValue → List Char
  | .number value => Json.writeNumber value
  | .words value => value.toList
  | .text value => Text.quoted value

def FieldValue.toJson : FieldValue → Json.Value
  | .number value => .number value
  | .words value => .string value.toList
  | .text value => .string value

/-- The level with blanks in front, five characters wide. -/
def Level.column (level : Level) : List Char :=
  let label := level.capitals.toList
  List.replicate (5 - label.length) ' ' ++ label

namespace Event

def compactLine (event : Event) : List Char :=
  event.level.column ++ [' '] ++ event.target.toList ++ [':', ' '] ++ event.message.toList ++
    (event.fields.flatMap fun (name, value) => ' ' :: name.toList ++ '=' :: value.plain) ++ ['\n']

/-- The line in a file, which starts with the time. -/
def fileLine (time : String) (event : Event) : List Char :=
  time.toList ++ ' ' :: event.compactLine

def jsonLine (time : String) (event : Event) : List Char :=
  let fields := event.fields.map fun (name, value) => (name, value.toJson)
  let object := Json.Value.object
    [("timestamp", .string time.toList),
     ("level", .string event.level.capitals.toList),
     ("fields", .object (("message", .string event.message.toList) :: fields)),
     ("target", .string event.target.toList)]
  object.write Json.oneLine 0 ++ ['\n']

/-- A line and an empty line behind it. -/
def prettyLines (time : String) (event : Event) : List Char :=
  [' ', ' '] ++ time.toList ++ ' ' :: event.level.column ++ [' '] ++ event.target.toList ++
    [':', ' '] ++ event.message.toList ++
    (event.fields.flatMap fun (name, value) => [',', ' '] ++ name.toList ++ [':', ' '] ++ value.plain) ++
    ['\n', '\n']

def write (style : Style) (time : String) (event : Event) : List Char :=
  match style with
  | .pretty => event.prettyLines time
  | .compact => event.compactLine
  | .json => event.jsonLine time

end Event

end TokenStream.Journal
