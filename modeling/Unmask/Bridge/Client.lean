import Unmask.Bridge.Channel

/-!
# The bridge

A client of a host program. It is both a codec and a host: each operation sends one request and
reads one response. The program is started when the first request is made, and told to shut down
when the bridge is closed.
-/

namespace Unmask

structure Bridge where
  program : String := ""
  args : List String := []
  /-- What starting the program gives: its channel, or why it cannot be started. -/
  launch : Except String Bridge.Channel := .error ""
  channel : Option Bridge.Channel := none

namespace Bridge

/-- The file name of an installed host. -/
def hostName : String := "cryptoscope-host"

/-- A bridge over streams that are already connected. If they are broken nothing can be written. -/
def ofStreams (input : List UInt8) (broken : Bool := false) : Bridge :=
  { channel := some (.ofBytes input (if broken then some 0 else none)) }

def isConnected (b : Bridge) : Bool := b.channel.isSome

/-- Where a request failed: at the host, or on the way. -/
inductive Failure where
  | host (message : String)
  | transport (e : Error)

def Failure.toError (onHost : String → Error) : Failure → Error
  | .host message => onHost message
  | .transport e => e

/-- The channel, started if need be. -/
def connect (b : Bridge) : Reply Bridge (Except Error Channel) :=
  match b.channel with
  | some c => { value := .ok c, state := b }
  | none =>
    let log := [.debug ("Starting host " ++ b.program)]
    match b.launch with
    | .ok c => { value := .ok c, log, state := { b with channel := some c } }
    | .error reason =>
      { value := .error (.bridge ("failed to start " ++ b.program ++ ": " ++ reason)), log
        state := b }

/-- Sends one request and reads one response. -/
def exchange (c : Channel) (r : Request) : Except Failure Json × Channel :=
  match c.send r with
  | .error e => (.error (.transport e), c)
  | .ok c =>
    match c.receive with
    | (.error e, c) => (.error (.transport e), c)
    | (.ok response, c) =>
      if response.ok then (.ok response.result, c)
      else (.error (.host (response.error.getD "unspecified host error")), c)

/-- Makes a request and reads its result. -/
def request {α : Type} (read : Json → Option α) (onHost : String → Error) (r : Request)
    (b : Bridge) : Reply Bridge (Except Error α) :=
  let connected := b.connect
  match connected.value with
  | .error e => { value := .error e, log := connected.log, state := connected.state }
  | .ok c =>
    let (result, c) := exchange c r
    { value := match result with
        | .error f => .error (f.toError onHost)
        | .ok j =>
          match read j with
          | none => .error .json
          | some a => .ok a
      log := connected.log
      state := { connected.state with channel := some c } }

/-- A look-up; one that fails finds nothing. -/
def lookup (what : String) (r : Request) (b : Bridge) : Reply Bridge Bool :=
  let reply := b.request Json.toBool? .bridge r
  match reply.value with
  | .ok found => { value := found, log := reply.log, state := reply.state }
  | .error e =>
    { value := false
      log := reply.log ++ [.warn (what ++ " failed: " ++ e.message)]
      state := reply.state }

def codec : Codec Bridge where
  load data b := b.request Module.ofJson? .bridge (.loadModule data)
  write m b :=
    let reply := b.request Json.toStr? .bridge (.writeModule m)
    { reply with
      value := match reply.value with
        | .error e => .error e
        | .ok text =>
          match Base64.decodeBytes? text with
          | none => .error .base64
          | some data => .ok data }

def host : Host Bridge where
  load data b :=
    let reply := b.request Json.toUInt32? .oracleUnavailable (.loadExecutable data)
    match reply.value with
    | .ok id =>
      { reply with log := reply.log ++ [.debug ("Host loaded image #" ++ toString id.toNat)] }
    | .error _ => reply
  findType image name b := b.lookup ("Type lookup of " ++ name) (.findType image name)
  findMethod image typeName name b :=
    b.lookup ("Method lookup of " ++ typeName ++ "::" ++ name) (.findMethod image typeName name)
  invoke image typeName method args b :=
    b.request Value.ofJson? (.invocation (typeName ++ "::" ++ method))
      (.invoke image typeName method args)

/-- Tells a connected host to shut down. Nothing is read any more. -/
def close (b : Bridge) : Reply Bridge Unit :=
  match b.channel with
  | none => { value := (), state := b }
  | some c =>
    match c.send .shutdown with
    | .ok c => { value := (), state := { b with channel := some c } }
    | .error e =>
      { value := (), log := [.debug ("Host shutdown request failed: " ++ e.message)], state := b }

/-- The lines sent so far. -/
def sent (b : Bridge) : List String := (b.channel.map Channel.sent).getD []

end Bridge

end Unmask
