namespace TokenStream

inductive FileError where
  | missing
  | notDirectory
  | isDirectory
  | forbidden
  | tooLong
  | tooManyLinks
  | notText
  | other (description : String)
deriving Repr, DecidableEq

def FileError.message : FileError → String
  | .missing => "No such file or directory (os error 2)"
  | .notDirectory => "Not a directory (os error 20)"
  | .isDirectory => "Is a directory (os error 21)"
  | .forbidden => "Permission denied (os error 13)"
  | .tooLong => "File name too long (os error 36)"
  | .tooManyLinks => "Too many levels of symbolic links (os error 40)"
  | .notText => "stream did not contain valid UTF-8"
  | .other description => description

def decodeText (bytes : ByteArray) : Except FileError (List Char) :=
  match String.fromUTF8? bytes with
  | some text => .ok text.toList
  | none => .error .notText

/-- The names of the directories from the root directory down, and of what is in the last of them. -/
abbrev Place := List String

/-- Where a device passes on what is written to it. -/
inductive Sink where
  | output
  | errors
  | nowhere
deriving Repr, DecidableEq

/-- What is at a place: a file, a directory, a device, or a further name for what a path leads to or
for the file at another place. -/
inductive Node where
  | file (bytes : ByteArray)
  | directory
  | device (bytes : ByteArray) (sink : Sink)
  | softLink (path : String)
  | hardLink (place : Place)

inductive Access where
  | read
  | write
  | search
deriving Repr, DecidableEq

namespace Path

def parts (written : String) : List String :=
  (written.toList.splitOn '/').map String.ofList

def isAbsolute (written : String) : Bool :=
  written.toList.head? == some '/'

/-- The directory that a path starts from. -/
def start (written : String) (here : Place) : Place :=
  if isAbsolute written then [] else here

/-- What two paths are compared by.  Steps that stay where they are do not count, but for one at the
start of a relative path. -/
def components (written : String) : List String :=
  let named := (parts written).filter fun part => part != "" && part != "."
  if isAbsolute written then "/" :: named
  else if (parts written).head? = some "." then "." :: named
  else named

/-- Whether a part names something in a directory, and neither stays there nor steps up. -/
def isName (part : String) : Bool :=
  part != "" && part != "." && part != ".."

def lengthLimit : Nat := 4096

def nameLimit : Nat := 255

def linkLimit : Nat := 40

end Path

/-- What is found at a place leads to the place where it really is, or along another path. -/
inductive Lead where
  | place (place : Place)
  | link (path : String)
  | nothing

structure Files where
  node? : Place → Option Node
  /-- The directory that relative paths start from. -/
  here : Place
  /-- The answer of the system where it does not permit the access. -/
  refusal? : Access → Place → Option FileError

namespace Files

/-- Nothing but a directory and those above it. -/
def bare (here : Place) : Files :=
  { node? := fun place => if place.isPrefixOf here then some .directory else none
    here
    refusal? := fun _ _ => none }

def insert (files : Files) (place : Place) (node : Node) : Files :=
  { files with node? := fun other => if other = place then some node else files.node? other }

def permit (files : Files) (access : Access) (place : Place) : Except FileError Unit :=
  match files.refusal? access place with
  | some fault => .error fault
  | none => .ok ()

/-- The place that a part of a path stands for in a directory. -/
def step (files : Files) (start : Place) (part : String) : Except FileError Place :=
  match files.node? start with
  | none => .error .missing
  | some .directory =>
      if part = "" then .ok start
      else do
        files.permit .search start
        return if part = "." then start else if part = ".." then start.dropLast else start ++ [part]
  | some _ => .error .notDirectory

def lead (files : Files) (place : Place) : Lead :=
  match files.node? place with
  | none => .nothing
  | some (.softLink path) => .link path
  | some (.hardLink other) => .place other
  | some _ => .place place

/-- The place that the parts of a path lead to.  Where a file is to be made the path may end with a
name that nothing has yet. -/
def walkWith (files : Files) (making : Bool)
    (follow : Place → List String → Except FileError Place) :
    Place → List String → Except FileError Place
  | start, [] => .ok start
  | start, part :: rest =>
      match files.step start part with
      | .error fault => .error fault
      | .ok next =>
          if making && Path.isName part && !rest.isEmpty && rest.all (· == "") then
            .error .isDirectory
          else
            match files.lead next with
            | .place place => walkWith files making follow place rest
            | .link path => follow (Path.start path start) (Path.parts path ++ rest)
            | .nothing =>
                if Path.nameLimit < part.utf8ByteSize then .error .tooLong
                else if making && rest.isEmpty then .ok next
                else .error .missing

/-- A walk along a limited number of symbolic links. -/
def walk (files : Files) (making : Bool) : Nat → Place → List String → Except FileError Place
  | 0 => files.walkWith making fun _ _ => .error .tooManyLinks
  | links + 1 => files.walkWith making (files.walk making links)

def locate (files : Files) (making : Bool) (written : String) : Except FileError Place :=
  if written = "" then .error .missing
  else if Path.lengthLimit ≤ written.utf8ByteSize then .error .tooLong
  else
    files.walk making Path.linkLimit (Path.start written files.here) (Path.parts written)

def contains (files : Files) (written : String) : Bool :=
  (files.locate false written).toOption.isSome

def readBytes (files : Files) (written : String) : Except FileError ByteArray := do
  let place ← files.locate false written
  files.permit .read place
  match files.node? place with
  | some (.file bytes) | some (.device bytes _) => return bytes
  | some .directory => throw .isDirectory
  | some (.softLink _) | some (.hardLink _) | none => throw .missing

def readText (files : Files) (written : String) : Except FileError (List Char) := do
  decodeText (← files.readBytes written)

/-- Opens a file for appending, and tells its place.  A missing file is made, but no directory is. -/
def openToAppend (files : Files) (written : String) : Except FileError (Files × Place) := do
  let place ← files.locate true written
  match files.node? place with
  | some (.file _) | some (.device _ _) =>
      files.permit .write place
      return (files, place)
  | none =>
      files.permit .write place.dropLast
      return (files.insert place (.file .empty), place)
  | some .directory => throw .isDirectory
  | some (.softLink _) | some (.hardLink _) => throw .missing

def append (files : Files) (place : Place) (text : List Char) : Files :=
  match files.node? place with
  | some (.file bytes) =>
      files.insert place (.file (bytes ++ (String.ofList text).toUTF8))
  | _ => files

def sink? (files : Files) (place : Place) : Option Sink :=
  match files.node? place with
  | some (.device _ sink) => some sink
  | _ => none

end Files

end TokenStream
