import Unmask.Bridge.Client
import Unmask.Command.Options
import Unmask.Command.Report
import Unmask.Files.Basic
import Unmask.Files.Path
import Unmask.Image

/-!
# The command

Loads an assembly, finds and asks the host, and writes the result and the report. The files around
it are an explicit state, so what a failed command leaves behind can be told.
-/

namespace Unmask.Command

/-- The file name with the suffix in front of the extension. -/
def suffixedName (input suffix : String) : String :=
  let stem := (Path.stem? input).getD "output"
  let extension := (Path.extension? input).getD ""
  if extension.isEmpty then stem ++ suffix else stem ++ suffix ++ "." ++ extension

/-- Where the result goes: next to the input, into a directory, or where it was told to. -/
def outputPath (isDirectory : String → Bool) (input : String) (output : Option String)
    (suffix : String) : String :=
  match output with
  | some out => if isDirectory out then Path.join out (suffixedName input suffix) else out
  | none => Path.join ((Path.parent? input).getD ".") (suffixedName input suffix)

def displayName (path : String) : String := (Path.fileName? path).getD path

/-- What a command finds around itself. -/
structure Environment (φ : Type) where
  files : FileSystem φ
  /-- Directories to look for a host in, in order. -/
  searchPath : List String := []
  /-- What starting a program gives: a channel to it, or why it does not start. -/
  launch : String → φ → Except String Bridge.Channel
  /-- The time a run takes. -/
  nanos : Nat := 0

/-- Why a command failed: what it was about, and the error behind it where there is one. -/
structure Failure where
  context : String
  cause : Option Error := none

/-- The wording of a failure, from the outside in. -/
def Failure.message (f : Failure) : String :=
  ": ".intercalate (f.context :: f.cause.toList.map Error.message)

/-- What a command leaves behind. -/
structure Outcome (φ : Type) where
  files : φ
  bridge : Option Bridge := none
  log : List LogRecord := []
  stdout : String := ""
  stderr : List String := []
  result : Except Failure Unit

/-- The requests that the host was sent. -/
def Outcome.sent {φ : Type} (o : Outcome φ) : List String := (o.bridge.map Bridge.sent).getD []

section

variable {φ : Type} (env : Environment φ)

def readError : ReadError → Error
  | .missing => .stream "No such file or directory (os error 2)"
  | .directory => .other "No such device (os error 19)"

/-- Loads and checks an assembly. -/
def loadImage (path : String) (fs : φ) : Except Failure Image :=
  let result := (env.files.read path fs).mapError readError >>= Image.ofBytes
  result.mapError fun e => ⟨"failed to load assembly: " ++ path, some e⟩

/-- The host that was asked for, or else the first one on the search path. -/
def locateHost (asked : Option String) (fs : φ) : Except Failure String × List LogRecord :=
  match asked with
  | some host => (.ok host, [])
  | none =>
    let candidates := env.searchPath.map fun dir => Path.join dir Bridge.hostName
    match candidates.find? fun c => env.files.isFile c fs with
    | some host => (.ok host, [.debug ("Using host " ++ host)])
    | none =>
      (.error ⟨"no " ++ Bridge.hostName ++
          " found next to the executable or on PATH, pass --host", none⟩,
        [.debug ("No " ++ Bridge.hostName ++ " found")])

/-- Loads the reference modules in order. -/
def loadReferences (fs : φ) : List String → Bridge → Reply Bridge (Except Failure (List Module))
  | [], b => { value := .ok [], state := b }
  | path :: rest, b =>
    match loadImage env path fs with
    | .error f => { value := .error f, state := b }
    | .ok image =>
      let reply := Bridge.codec.load image.data b
      match reply.value with
      | .error e =>
        { value := .error ⟨"failed to load reference: " ++ path, some e⟩, log := reply.log
          state := reply.state }
      | .ok m =>
        let later := loadReferences fs rest reply.state
        { later with value := later.value.map (m :: ·), log := reply.log ++ later.log }

/-- Deobfuscates an image with the help of a host. -/
def deobfuscate (o : Options) (image : Image) (fs : φ) (b : Bridge) :
    Reply Bridge (Except Failure (ByteArray × EventLog)) :=
  let loaded := loadReferences env fs o.references b
  match loaded.value with
  | .error f => { value := .error f, log := loaded.log, state := loaded.state }
  | .ok references =>
    let count : LogRecord := .debug (toString references.length ++ " reference modules loaded")
    let engine : Engine Bridge :=
      { config := o.config, resolver := some (resolveWith references), host := some Bridge.host }
    let done := engine.convert Bridge.codec image.data loaded.state
    { value := done.result.mapError fun e => ⟨"deobfuscation failed: " ++ o.path, some e⟩
      log := loaded.log ++ [count] ++ done.log
      state := done.state }

def report (o : Options) (output : String) (events : EventLog) : Report where
  file := displayName o.path
  output := displayName output
  config := o.config
  millis := env.nanos / 1000000
  stats := Stats.ofLog events env.nanos
  warnings := (events.ofKind .warning).map Event.message
  errors := (events.ofKind .error).map Event.message

/-- What writing the results leaves: the files, the lines for standard error and the text for
standard output. -/
structure Delivery (φ : Type) where
  files : φ
  stdout : String := ""
  stderr : List String := []
  result : Except Failure Unit

/-- Writes the new image, then the report file if one is asked for, and shows the report. -/
def deliver (o : Options) (data : ByteArray) (events : EventLog) (fs : φ) : Delivery φ :=
  let output := outputPath (fun p => env.files.isDirectory p fs) o.path o.output o.suffix
  match env.files.write output data fs with
  | none => { files := fs, result := .error ⟨"failed to write output: " ++ output, none⟩ }
  | some fs =>
    let r := report env o output events
    let emit (fs : φ) (stderr : List String) : Delivery φ :=
      if o.json then { files := fs, stdout := r.toJson.pretty ++ "\n", stderr, result := .ok () }
      else { files := fs, stderr := stderr ++ r.lines, result := .ok () }
    match o.report with
    | none => emit fs []
    | some file =>
      match env.files.write file r.toJson.pretty.toUTF8 fs with
      | none => { files := fs, result := .error ⟨"failed to write report: " ++ file, none⟩ }
      | some fs => emit fs ["Report written to " ++ file]

/-- Runs the command. The host, once started, is told to shut down however the run ends. -/
def run (o : Options) (fs : φ) : Outcome φ :=
  match loadImage env o.path fs with
  | .error f => { files := fs, result := .error f }
  | .ok image =>
    match locateHost env o.host fs with
    | (.error f, log) => { files := fs, log, result := .error f }
    | (.ok program, log) =>
      let done := deobfuscate env o image fs { program, launch := env.launch program fs }
      let delivery : Delivery φ := match done.value with
        | .error f => { files := fs, result := .error f }
        | .ok (data, events) => deliver env o data events fs
      let closed := done.state.close
      { files := delivery.files
        bridge := some closed.state
        log := log ++ done.log ++ closed.log
        stdout := delivery.stdout
        stderr := delivery.stderr
        result := delivery.result }

end

end Unmask.Command
