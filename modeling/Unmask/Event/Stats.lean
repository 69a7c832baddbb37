import Unmask.Decimal.Rounding
import Unmask.Event.Basic

/-!
# Statistics

Counts of events by kind, and the time a run took, in nanoseconds.
-/

namespace Unmask

/-- A duration in the largest unit that gives at least one, with two places. -/
def showDuration (nanos : Nat) : String :=
  if 1000000000 ≤ nanos then Decimal.fixed 2 nanos 1000000000 ++ "s"
  else if 1000000 ≤ nanos then Decimal.fixed 2 nanos 1000000 ++ "ms"
  else if 1000 ≤ nanos then Decimal.fixed 2 nanos 1000 ++ "µs"
  else Decimal.fixed 2 nanos 1 ++ "ns"

structure Stats where
  proxiesResolved : Nat := 0
  proxyTypesRemoved : Nat := 0
  callSitesRewritten : Nat := 0
  stringsDecrypted : Nat := 0
  constantsDecrypted : Nat := 0
  sitesFailed : Nat := 0
  candidatesSkipped : Nat := 0
  warnings : Nat := 0
  errors : Nat := 0
  nanos : Nat := 0
  deriving DecidableEq, Repr, Inhabited

namespace Stats

def ofLog (log : EventLog) (nanos : Nat) : Stats where
  proxiesResolved := log.count .proxyResolved
  proxyTypesRemoved := log.count .proxyTypeRemoved
  callSitesRewritten := log.count .callSiteRewritten
  stringsDecrypted := log.count .stringDecrypted
  constantsDecrypted := log.count .constantDecrypted
  sitesFailed := log.count .siteFailed
  candidatesSkipped := log.count .candidateSkipped
  warnings := log.count .warning
  errors := log.count .error
  nanos := nanos

/-- Informational events are not counted. -/
def count (s : Stats) : EventKind → Nat
  | .proxyResolved => s.proxiesResolved
  | .proxyTypeRemoved => s.proxyTypesRemoved
  | .callSiteRewritten => s.callSitesRewritten
  | .stringDecrypted => s.stringsDecrypted
  | .constantDecrypted => s.constantsDecrypted
  | .siteFailed => s.sitesFailed
  | .candidateSkipped => s.candidatesSkipped
  | .info => 0
  | .warning => s.warnings
  | .error => s.errors

def hasChanges (s : Stats) : Bool :=
  0 < s.proxiesResolved + s.proxyTypesRemoved + s.callSitesRewritten + s.stringsDecrypted +
    s.constantsDecrypted

/-- What was changed and what failed, and how long it took. -/
def summary (s : Stats) : String :=
  let parts := EventLog.countTexts (EventKind.all.take 6) s.count
  (if parts.isEmpty then "no changes" else ", ".intercalate parts) ++ " in " ++
    showDuration s.nanos

end Stats

end Unmask
