import Unmask.Engine

/-!
# Command line options

Arguments are read from left to right. An option takes its value from the same argument, or from the
next one unless that looks like an option itself. Values are only looked at once the next argument
has been recognised, so an unknown argument is reported before a missing value in front of it.
-/

namespace Unmask.Command

structure Options where
  path : String
  output : Option String := none
  suffix : String := "-deobf"
  host : Option String := none
  references : List String := []
  noProxies : Bool := false
  noDecryption : Bool := false
  keepProxyTypes : Bool := false
  int64Compat : Bool := false
  report : Option String := none
  json : Bool := false
  verbose : Bool := false
  pause : Bool := false
  deriving DecidableEq, Repr, Inhabited

def Options.config (o : Options) : Config where
  resolveProxies := !o.noProxies
  decryptConstants := !o.noDecryption
  removeProxyTypes := !o.keepProxyTypes
  numericOracle := if o.int64Compat then .int64Compat else .typeMatched

/-- Why the arguments are not run as a command. -/
inductive Usage where
  | missingRequiredArgument
  | unknownArgument
  | invalidValue
  | tooManyValues
  | argumentConflict
  | displayHelp
  | displayVersion
  deriving DecidableEq, Repr, Inhabited

def Usage.name : Usage → String
  | .missingRequiredArgument => "MissingRequiredArgument"
  | .unknownArgument => "UnknownArgument"
  | .invalidValue => "InvalidValue"
  | .tooManyValues => "TooManyValues"
  | .argumentConflict => "ArgumentConflict"
  | .displayHelp => "DisplayHelp"
  | .displayVersion => "DisplayVersion"

/-- Asking for help or the version is no failure. -/
def Usage.exitCode : Usage → Nat
  | .displayHelp | .displayVersion => 0
  | _ => 2

/-- The arguments a command line can hold. -/
inductive Arg where
  | file | output | suffix | host | reference | report
  | noProxies | noDecryption | keepProxyTypes | int64Compat | json | verbose | pause
  | help | version
  deriving DecidableEq, Repr, Inhabited

namespace Arg

def ofLong? (name : String) : Option Arg :=
  [("output", .output), ("suffix", .suffix), ("host", .host), ("reference", .reference),
   ("report", .report), ("no-proxies", .noProxies), ("no-decryption", .noDecryption),
   ("keep-proxy-types", .keepProxyTypes), ("int64-compat", .int64Compat), ("json", .json),
   ("verbose", .verbose), ("pause", .pause), ("help", .help), ("version", .version)].lookup name

def ofShort? (c : Char) : Option Arg :=
  [('o', Arg.output), ('r', .reference), ('v', .verbose), ('h', .help), ('V', .version)].lookup c

def takesValue : Arg → Bool
  | .file | .output | .suffix | .host | .reference | .report => true
  | _ => false

/-- Whether the argument may stand there more than once. -/
def repeats : Arg → Bool
  | .reference => true
  | _ => false

/-- Whether an empty value will do. A path is never empty. -/
def mayBeEmpty : Arg → Bool
  | .suffix => true
  | _ => false

/-- Puts the value of an argument into the options; a flag has none. -/
def store (a : Arg) (value : String) (o : Options) : Options :=
  match a with
  | .file => { o with path := value }
  | .output => { o with output := some value }
  | .suffix => { o with suffix := value }
  | .host => { o with host := some value }
  | .reference => { o with references := o.references ++ [value] }
  | .report => { o with report := some value }
  | .noProxies => { o with noProxies := true }
  | .noDecryption => { o with noDecryption := true }
  | .keepProxyTypes => { o with keepProxyTypes := true }
  | .int64Compat => { o with int64Compat := true }
  | .json => { o with json := true }
  | .verbose => { o with verbose := true }
  | .pause => { o with pause := true }
  | .help | .version => o

end Arg

/-- How far the arguments have been read. -/
structure Reading where
  options : Options := { path := "" }
  /-- Arguments that were given. -/
  given : List Arg := []
  /-- An argument that is recognised but not yet stored, with its value if it has come. -/
  pending : Option (Arg × Option String) := none

namespace Reading

/-- Stores an argument with its value. -/
def accept (r : Reading) (a : Arg) (value : Option String) : Except Usage Reading :=
  if a.takesValue && value.isNone then .error .invalidValue
  else if a = .help then .error .displayHelp
  else if a = .version then .error .displayVersion
  else if !a.repeats && r.given.contains a then .error .argumentConflict
  else if a.takesValue && !a.mayBeEmpty && value = some "" then .error .invalidValue
  else .ok { r with options := a.store (value.getD "") r.options, given := a :: r.given }

/-- Stores what is pending. -/
def settle (r : Reading) : Except Usage Reading :=
  match r.pending with
  | none => .ok r
  | some (a, value) => { r with pending := none }.accept a value

/-- Takes up an argument whose value is in the same word, or that has none. -/
def take (r : Reading) (a : Arg) (value : Option String) : Except Usage Reading := do
  (← r.settle).accept a value

/-- Takes up an argument whose value is still to come. -/
def await (r : Reading) (a : Arg) : Except Usage Reading := do
  return { ← r.settle with pending := some (a, none) }

/-- Whether the file has been named, be it stored or not. -/
def hasFile (r : Reading) : Bool :=
  r.given.contains .file || r.pending.any fun p => p.1 = .file

/-- A word that is no option: the value awaited, or the file. A second file is refused before what
is pending is looked at. -/
def plain (r : Reading) (word : String) (afterDashes : Bool) : Except Usage Reading :=
  match r.pending, afterDashes with
  | some (a, none), false => .ok { r with pending := some (a, some word) }
  | _, _ =>
    if r.hasFile then .error .unknownArgument
    else do return { ← r.settle with pending := some (.file, some word) }

/-- The part of a long option before the equals sign, and its value. -/
def splitLong (cs : List Char) : String × Option String :=
  match cs.span (· ≠ '=') with
  | (name, _ :: value) => (String.ofList name, some (String.ofList value))
  | (name, []) => (String.ofList name, none)

def long (r : Reading) (cs : List Char) : Except Usage Reading :=
  match splitLong cs with
  | (name, value) =>
    match Arg.ofLong? name with
    | none => .error .unknownArgument
    | some a =>
      if a.takesValue then
        if value.isSome then r.take a value else r.await a
      else if value.isSome then .error .tooManyValues
      else r.take a none

/-- Short options in one word; the first one that takes a value takes the rest of the word. -/
def short : List Char → Reading → Except Usage Reading
  | [], r => .ok r
  | c :: rest, r =>
    match Arg.ofShort? c with
    | none => .error .unknownArgument
    | some a =>
      if !a.takesValue then do short rest (← r.take a none)
      else
        match rest with
        | [] => r.await a
        | '=' :: value => r.take a (some (String.ofList value))
        | value => r.take a (some (String.ofList value))

def words : List String → Reading → Except Usage Reading
  | [], r => r.settle
  | word :: rest, r =>
    match word.toList with
    | ['-', '-'] => trailing rest r
    | '-' :: '-' :: cs => do words rest (← r.long cs)
    | '-' :: c :: cs => do words rest (← short (c :: cs) r)
    | _ => do words rest (← r.plain word false)
where
  /-- After two dashes nothing is an option. -/
  trailing : List String → Reading → Except Usage Reading
    | [], r => r.settle
    | word :: rest, r => do trailing rest (← r.plain word true)

end Reading

/-- Reads the arguments. `envHost` names the host where the arguments do not. -/
def parse (args : List String) (envHost : Option String) : Except Usage Options := do
  let r ← Reading.words args {}
  let r ← match envHost with
    | some host => if r.given.contains .host then pure r else r.accept .host (some host)
    | none => pure r
  if r.given.contains .file then return r.options else throw .missingRequiredArgument

end Unmask.Command
