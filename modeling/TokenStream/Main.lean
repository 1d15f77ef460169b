import TokenStream.Program

namespace TokenStream

def Place.ofAbsolute (written : String) : Place :=
  (Path.parts written).filter (· != "")

def Place.written (place : Place) : String :=
  "/" ++ "/".intercalate place

/-- The places that stand for the program's own streams, and for none. -/
def streams : List (Place × Node) :=
  [(["dev", "stdout"], .device .empty .output),
   (["dev", "stderr"], .device .empty .errors),
   (["dev", "null"], .device .empty .nowhere)]

def Files.forbid (files : Files) (access : Access) (place : Place) : Files :=
  { files with
    refusal? := fun other there =>
      if other = access ∧ there = place then some .forbidden else files.refusal? other there }

/-- Puts something into the files together with the directories above it. -/
def Files.enter (files : Files) (place : Place) (node : Node) : Files :=
  let directories := (List.range place.length).map place.take
  (directories.foldl (fun files place => files.insert place .directory) files).insert place node

def probe (files : Files) (place : Place) : IO Files := do
  try
    return files.enter place (.file (← IO.FS.readBinFile (Place.written place)))
  catch
    | .inappropriateType _ 21 _ => return files.enter place .directory
    | .permissionDenied .. => return (files.enter place (.file .empty)).forbid .read place
    | _ => return files

/-- The files with what is at a place, and the place that a link there leads to. -/
def explore (files : Files) (place : Place) : IO (Files × Place) := do
  if let some (_, device) := streams.find? (·.1 == place) then
    return (files.enter place device, place)
  let real ←
    try
      pure (Place.ofAbsolute (← IO.FS.realPath (Place.written place)).toString)
    catch _ => pure place
  let files ← probe files real
  if real = place then return (files, place)
  else return (files.insert place (.hardLink real), real)

/-- The files with everything that a written path leads through. -/
def survey (files : Files) (written : String) : IO Files := do
  let mut files := files
  let mut place := Path.start written files.here
  for part in Path.parts written do
    if part = ".." then place := place.dropLast
    else if Path.isName part then
      (files, place) ← explore files (place ++ [part])
  return files

def Invocation.paths (invocation : Invocation) : List String :=
  invocation.config.getD defaultSettingsFile ::
    (invocation.inputFile?.toList ++ invocation.logFile.toList)

def complaint (_ : List String) : Refusal → String
  | .unknownArgument => "error: unexpected argument\n"
  | .invalidValue => "error: a value is missing or empty\n"
  | .argumentConflict => "error: an argument is used more than once\n"
  | .tooManyValues => "error: unexpected value for a flag\n"
  | .help | .version => ""

/-- What a run of the invocation finds.  Standard input is left alone where it is not used. -/
def Invocation.look (invocation : Invocation) : IO Surroundings := do
  let here := Place.ofAbsolute (← IO.FS.realPath ".").toString
  let files ← invocation.paths.foldlM survey (Files.bare here)
  let used := invocation.inputFile?.isNone && (prepare invocation files).toOption.isSome
  let standardInput ←
    if used then (← IO.getStdin).readBinToEnd else pure ByteArray.empty
  return { files, standardInput, time := toString (← IO.monoMsNow), complaint }

def extend (written : String) (before after : Files) : IO Unit := do
  let .ok place := after.locate false written | return
  if let some (.file bytes) := after.node? place then
    let known :=
      match before.node? place with
      | some (.file known) => known.size
      | _ => 0
    let file ← IO.FS.Handle.mk written .append
    file.write (bytes.extract known bytes.size)

/-- Writes the journal's file.  A run whose journal cannot be written has failed. -/
def keepJournal (written : String) (before : Files) (result : Result) : IO Result := do
  try
    extend written before result.files
    return result
  catch
    | .permissionDenied .. => return failed [] [] before (.logUnusable written .forbidden)
    | fault => return failed [] [] before (.logUnusable written (.other (toString fault)))

def report (result : Result) : IO UInt32 := do
  (← IO.getStderr).putStr (String.ofList result.errors)
  (← IO.getStdout).putStr (String.ofList result.output)
  return UInt32.ofNat result.exitCode

def start (arguments : List String) : IO UInt32 := do
  match Invocation.ofArguments arguments with
  | .error refusal =>
      let surroundings : Surroundings :=
        { files := .bare [], standardInput := .empty, time := "", complaint }
      report (refusal.result arguments surroundings)
  | .ok invocation =>
      let surroundings ← invocation.look
      let result := invocation.run surroundings
      match invocation.logFile with
      | none => report result
      | some written => report (← keepJournal written surroundings.files result)

end TokenStream

def main (arguments : List String) : IO UInt32 :=
  TokenStream.start arguments
