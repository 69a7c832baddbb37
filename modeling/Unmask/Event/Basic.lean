import Unmask.IL.Token
import Unmask.Log

/-!
# Events

Every decision of a pass is an event. A run is summed up by counting its events.
-/

namespace Unmask

inductive EventKind where
  | proxyResolved
  | proxyTypeRemoved
  | callSiteRewritten
  | stringDecrypted
  | constantDecrypted
  | siteFailed
  | candidateSkipped
  | info
  | warning
  | error
  deriving DecidableEq, Repr, Inhabited

namespace EventKind

def all : List EventKind :=
  [.proxyResolved, .proxyTypeRemoved, .callSiteRewritten, .stringDecrypted, .constantDecrypted,
   .siteFailed, .candidateSkipped, .info, .warning, .error]

def name : EventKind → String
  | .proxyResolved => "ProxyResolved"
  | .proxyTypeRemoved => "ProxyTypeRemoved"
  | .callSiteRewritten => "CallSiteRewritten"
  | .stringDecrypted => "StringDecrypted"
  | .constantDecrypted => "ConstantDecrypted"
  | .siteFailed => "SiteFailed"
  | .candidateSkipped => "CandidateSkipped"
  | .info => "Info"
  | .warning => "Warning"
  | .error => "Error"

def ofName? (s : String) : Option EventKind := all.find? fun k => k.name = s

/-- What a number of such events is a number of. -/
def display : EventKind → String
  | .proxyResolved => "proxies resolved"
  | .proxyTypeRemoved => "proxy types removed"
  | .callSiteRewritten => "call sites rewritten"
  | .stringDecrypted => "strings decrypted"
  | .constantDecrypted => "constants decrypted"
  | .siteFailed => "sites failed"
  | .candidateSkipped => "candidates skipped"
  | .info => "info"
  | .warning => "warnings"
  | .error => "errors"

/-- Whether such an event stands for a change of the module. -/
def isTransformation : EventKind → Bool
  | .proxyResolved | .proxyTypeRemoved | .callSiteRewritten | .stringDecrypted
  | .constantDecrypted => true
  | _ => false

def isDiagnostic : EventKind → Bool
  | .info | .warning | .error => true
  | _ => false

end EventKind

structure Event where
  kind : EventKind
  /-- The method or type concerned. -/
  token : Option Token := none
  /-- The slot in the method. -/
  location : Option Nat := none
  message : String := kind.display
  pass : Option String := none
  deriving DecidableEq, Repr, Inhabited

def Event.display (e : Event) : String :=
  let text := "[" ++ e.kind.display ++ "] " ++ e.message
  match e.token, e.location with
  | some t, some i => text ++ " @ " ++ t.display ++ "+" ++ toString i
  | some t, none => text ++ " @ " ++ t.display
  | none, _ => text

/-- Events in the order in which they happened. -/
abbrev EventLog := List Event

namespace EventLog

def ofKind (log : EventLog) (kind : EventKind) : EventLog := log.filter fun e => e.kind = kind

def count (log : EventLog) (kind : EventKind) : Nat := (log.ofKind kind).length

def diagnostics (log : EventLog) : EventLog := log.filter fun e => e.kind.isDiagnostic

def transformationCount (log : EventLog) : Nat :=
  (log.filter fun e => e.kind.isTransformation).length

/-- `n things` for each of `kinds` that occurs, in order. -/
def countTexts (kinds : List EventKind) (count : EventKind → Nat) : List String :=
  (kinds.filter fun k => count k ≠ 0).map fun k => toString (count k) ++ " " ++ k.display

/-- The transformations by kind, or the bare number of events if there is none. -/
def summary (log : EventLog) : String :=
  if log.isEmpty then "no events"
  else
    match countTexts (EventKind.all.filter EventKind.isTransformation) log.count with
    | [] => toString log.length ++ " events"
    | parts => ", ".intercalate parts

end EventLog

/-- What a run leaves behind besides its result. -/
structure Journal where
  events : EventLog := []
  log : List LogRecord := []
  deriving DecidableEq, Repr, Inhabited

instance : Append Journal := ⟨fun a b => ⟨a.events ++ b.events, a.log ++ b.log⟩⟩

namespace Journal

def record (r : LogRecord) : Journal := { log := [r] }

@[simp] theorem events_append (a b : Journal) : (a ++ b).events = a.events ++ b.events := rfl

@[simp] theorem log_append (a b : Journal) : (a ++ b).log = a.log ++ b.log := rfl

end Journal

end Unmask
