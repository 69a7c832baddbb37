import Unmask.Files.Tree

/-!
# Starting programs

A program is started by its path, or looked for by its name along a search path. A candidate that
does not exist or is not a program is passed over; if there is no other, the failure is that of the
last one, unless one of them could only not be run.

The search bounds what it puts together. An entry of the search path that is longer than a path can
be stands for the working directory, or for nothing if it is the last one, and of a name that is too
long only so much is used as shows that it is.
-/

namespace Unmask

inductive StartError where
  | path (e : PathError)
  /-- What the path leads to is not a program. -/
  | denied
  /-- There was nowhere to look. -/
  | untried
  deriving DecidableEq, Repr, Inhabited

def PathError.message : PathError → String
  | .missing => "No such file or directory (os error 2)"
  | .notDirectory => "Not a directory (os error 20)"
  | .tooLong => "File name too long (os error 36)"
  | .zero => "nul byte found in provided data"

def StartError.message : StartError → String
  | .path e => e.message
  | .denied => "Permission denied (os error 13)"
  | .untried => "No child processes (os error 10)"

/-- Whether the next candidate is tried after this failure. -/
def StartError.isPassedOver : StartError → Bool
  | .path .missing | .path .notDirectory | .denied => true
  | .path .tooLong | .path .zero | .untried => false

namespace Tree

/-- The shortest part of a name from its front that is longer than `limit` bytes, or else all of
it. -/
def clip (limit : Nat) : List Char → List Char
  | [] => []
  | c :: rest => if limit < c.utf8Size then [c] else c :: clip (limit - c.utf8Size) rest

/-- The directories that a search looks through. -/
def searched : List String → List String
  | [] => []
  | [entry] => if pathLimit < entry.utf8ByteSize then [] else [entry]
  | entry :: rest => (if pathLimit < entry.utf8ByteSize then "" else entry) :: searched rest

/-- Where a program is looked for: a name with a slash is its path, any other name is looked for in
each directory of the search path. -/
def candidates (search : List String) (program : String) : List String :=
  if program.toList.contains '/' then [program]
  else
    let name := String.ofList (clip nameLimit program.toList)
    (searched search).map fun directory =>
      if directory.isEmpty then name else directory ++ "/" ++ name

/-- Starts the program at a path. -/
def startAt (t : Tree) (programs : List (List String)) (path : String) : Except StartError Unit :=
  match t.find path with
  | .error e => .error (.path e)
  | .ok (.file names _) => if programs.contains names then .ok () else .error .denied
  | .ok _ => .error .denied

/-- Starts the first candidate that is a program. `failure` is how the search ends if there is
none. -/
def startFirst (t : Tree) (programs : List (List String)) :
    List String → StartError → Except StartError Unit
  | [], failure => .error failure
  | path :: rest, failure =>
    match t.startAt programs path with
    | .ok _ => .ok ()
    | .error e =>
      if !e.isPassedOver then .error e
      else t.startFirst programs rest (if failure = .denied then .denied else e)

/-- Starts a program by name or path. -/
def start (t : Tree) (programs : List (List String)) (search : List String) (program : String) :
    Except StartError Unit :=
  if program.toList.contains '\x00' then .error (.path .zero)
  else if program.isEmpty then .error (.path .missing)
  else t.startFirst programs (candidates search program) .untried

end Tree

end Unmask
