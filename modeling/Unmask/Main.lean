import Unmask.Command.Run
import Unmask.Files.Snapshot

/-!
# The program

Takes a snapshot of the files a command asks for, runs the command on it, and carries out what the
outcome says. A host listens on two pipes beside its path, one for requests and one for responses.
The command is a function of the responses, so it is run anew with each of them until it asks for no
more.
-/

namespace Unmask.Command

/-- What is known when a command is run. -/
structure Facts where
  options : Options
  searchPath : List String
  snapshot : Snapshot
  channel : Except String Bridge.Channel := .ok {}
  nanos : Nat := 0

def Facts.run (f : Facts) : Outcome Snapshot :=
  Command.run
    { files := Snapshot.fileSystem, searchPath := f.searchPath, launch := fun _ _ => f.channel
      nanos := f.nanos }
    f.options f.snapshot

/-- What someone who watches a run gets to see. -/
def shownRecords (verbose : Bool) (log : List LogRecord) : List LogRecord :=
  log.filter fun r => verbose || r.level ≠ .debug

def helpText : String := "Usage: cryptoscope [OPTIONS] <FILE>"

def versionText : String := "cryptoscope 0.1.0"

/-! ## Files -/

def succeeds (action : IO Unit) : IO Bool := do
  try
    action
    return true
  catch _ => return false

def canOpen (path : String) : IO Bool := succeeds do discard (IO.FS.Handle.mk path .read)

def isFile (path : String) : IO Bool := succeeds do
  discard ((← IO.FS.Handle.mk path .read).read 1)

/-- A directory can be opened, but has nothing to be read. -/
def isDirectory (path : String) : IO Bool := do
  if ← canOpen path then return !(← isFile path) else return false

def readFile (path : String) : IO (Except ReadError ByteArray) := do
  if ← isDirectory path then return .error .directory
  try return .ok (← IO.FS.readBinFile path)
  catch _ => return .error .missing

/-- Everything a command with these options can ask for. -/
def takeSnapshot (o : Options) (searchPath : List String) : IO Snapshot := do
  let contents ← (o.path :: o.references).mapM fun path => return (path, ← readFile path)
  let directories ← o.output.toList.filterM isDirectory
  let hosts := searchPath.map fun directory => Path.join directory Bridge.hostName
  return { contents, directories, plainFiles := ← hosts.filterM isFile }

/-- Carries out the writes in order, up to the first that fails. -/
def store : List (String × ByteArray) → IO (Option String)
  | [] => return none
  | (path, content) :: rest => do
    if ← succeeds (IO.FS.writeBinFile path content) then store rest else return some path

/-! ## The host -/

structure Pipes where
  requests : IO.FS.Handle
  responses : IO.FS.Handle

def Pipes.open (program : String) : IO Pipes :=
  return ⟨← IO.FS.Handle.mk (program ++ ".requests") .readWrite,
    ← IO.FS.Handle.mk (program ++ ".responses") .read⟩

def Pipes.send (p : Pipes) (line : String) : IO Bool := succeeds do
  p.requests.putStr line
  p.requests.flush

/-- The next line; a line that is no text stays one. -/
def Pipes.receive (p : Pipes) : IO (List UInt8) := do
  try return (← p.responses.getLine).toUTF8.data.toList
  catch _ => return [0xff]

/-- Sends the requests that are not answered yet one by one, and runs the command again with each
answer. Returns the answers. -/
partial def converse (f : Facts) (p : Pipes) (answers : List (List UInt8)) :
    IO (List (List UInt8)) := do
  match ({ f with channel := .ok { unread := answers } } : Facts).run.sent.drop answers.length with
  | [] => return answers
  | request :: rest =>
    if !(← p.send request) || request = Bridge.Request.shutdown.line then return answers
    let line ← p.receive
    if line.isEmpty then
      rest.forM fun request => discard (p.send request)
      return answers
    converse f p (answers ++ [line])

/-- What the host of this command has to say, if it is asked anything at all. -/
def consult (f : Facts) : IO Facts := do
  let first := f.run
  match first.bridge, first.sent with
  | some bridge, _ :: _ =>
    try
      let pipes ← Pipes.open bridge.program
      return { f with channel := .ok { unread := ← converse f pipes [] } }
    catch e => return { f with channel := .error (toString e) }
  | _, _ => return f

/-! ## The command line -/

/-- Runs a command and reports what came of it. -/
def execute (o : Options) : IO UInt32 := do
  let beside := (Path.parent? (← IO.appPath).toString).toList
  let searched := ((← IO.getEnv "PATH").map Path.searchList).getD []
  let searchPath := beside ++ searched
  let start ← IO.monoNanosNow
  let facts ← consult { options := o, searchPath, snapshot := ← takeSnapshot o searchPath }
  let facts := { facts with nanos := (← IO.monoNanosNow) - start }
  let outcome := facts.run
  let outcome ← match ← store outcome.files.written with
    | none => pure outcome
    | some path =>
      pure ({ facts with snapshot.refused := [path] } : Facts).run
  (shownRecords o.verbose outcome.log).forM fun r =>
    IO.eprintln ("[" ++ r.level.display ++ "] " ++ r.message)
  outcome.stderr.forM fun line => IO.eprintln line
  IO.print outcome.stdout
  let code ← match outcome.result with
    | .ok _ => pure 0
    | .error f => do
      IO.eprintln ("cryptoscope failed: " ++ f.message)
      pure 1
  if o.pause then
    IO.eprintln "Press Enter to exit..."
    discard (← IO.getStdin).getLine
  return code

/-- Answers arguments that are not run as a command. -/
def explain (u : Usage) : IO UInt32 := do
  match u with
  | .displayHelp => IO.println helpText
  | .displayVersion => IO.println versionText
  | u => IO.eprintln ("error: " ++ u.name ++ "\n\n" ++ helpText)
  return u.exitCode.toUInt32

end Unmask.Command

def main (args : List String) : IO UInt32 := do
  match Unmask.Command.parse args (← IO.getEnv "CRYPTOSCOPE_HOST") with
  | .error usage => Unmask.Command.explain usage
  | .ok options => Unmask.Command.execute options
