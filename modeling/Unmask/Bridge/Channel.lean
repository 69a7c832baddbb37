import Unmask.Bridge.Message

/-!
# Channels

The two streams between bridge and host. What can be read is kept as the lines that are still to
come, what was written as the lines sent.
-/

namespace Unmask.Bridge

/-- Cuts a byte sequence after each line feed. Only the last line may lack one. -/
def splitLines : List UInt8 → List (List UInt8)
  | [] => []
  | b :: rest =>
    if b = 10 then [b] :: splitLines rest
    else
      match splitLines rest with
      | [] => [[b]]
      | line :: lines => (b :: line) :: lines

structure Channel where
  /-- Lines the host has still to be read from, as bytes. -/
  unread : List (List UInt8) := []
  /-- Lines written to the host, oldest first. -/
  sent : List String := []
  /-- How many more lines can be written before the pipe breaks, if it ever does. -/
  writable : Option Nat := none
  deriving Inhabited

namespace Channel

def ofBytes (input : List UInt8) (writable : Option Nat := none) : Channel :=
  { unread := splitLines input, writable }

/-- Writes one line, unless the pipe is broken. -/
def send (c : Channel) (r : Request) : Except Error Channel :=
  if c.writable = some 0 then .error (.stream "broken pipe")
  else .ok { c with sent := c.sent ++ [r.line], writable := c.writable.map (· - 1) }

/-- Reads one line. A line that is not a response is used up all the same. -/
def receive (c : Channel) : Except Error Response × Channel :=
  match c.unread with
  | [] => (.error (.bridge "host closed the connection"), c)
  | line :: rest =>
    let c := { c with unread := rest }
    match String.fromUTF8? ⟨line.toArray⟩ with
    | none => (.error (.stream "stream did not contain valid UTF-8"), c)
    | some text =>
      match Response.parse? text with
      | none => (.error .json, c)
      | some response => (.ok response, c)

end Channel

end Unmask.Bridge
