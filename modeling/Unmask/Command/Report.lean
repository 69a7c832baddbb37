import Unmask.Engine
import Unmask.Json.Printer

/-!
# Reports

What one run did to one file, as text for a reader and as JSON for a program.
-/

namespace Unmask.Command

structure Report where
  file : String
  output : String
  config : Config
  millis : Nat
  stats : Stats
  warnings : List String
  errors : List String

def configJson (c : Config) : Json :=
  .obj [("enable_proxy_resolution", .bool c.resolveProxies),
    ("enable_constant_decryption", .bool c.decryptConstants),
    ("remove_proxy_types", .bool c.removeProxyTypes),
    ("numeric_oracle", .str c.numericOracle.name)]

/-- The counters by name. -/
def counterFields (s : Stats) : List (String × Json) :=
  [("proxies_resolved", .nat s.proxiesResolved), ("proxy_types_removed", .nat s.proxyTypesRemoved),
   ("call_sites_rewritten", .nat s.callSitesRewritten),
   ("strings_decrypted", .nat s.stringsDecrypted),
   ("constants_decrypted", .nat s.constantsDecrypted), ("sites_failed", .nat s.sitesFailed),
   ("candidates_skipped", .nat s.candidatesSkipped), ("warnings", .nat s.warnings),
   ("errors", .nat s.errors)]

def statsJson (s : Stats) : Json :=
  .obj (counterFields s ++ [("total_time",
    .obj [("secs", .nat (s.nanos / 1000000000)), ("nanos", .nat (s.nanos % 1000000000))])])

namespace Report

def toJson (r : Report) : Json :=
  .obj [("file", .str r.file), ("output", .str r.output), ("config", configJson r.config),
    ("time_ms", .nat r.millis), ("stats", statsJson r.stats), ("warnings", Json.strs r.warnings),
    ("errors", Json.strs r.errors)]

def counters (s : Stats) : List (String × Nat) :=
  [("Proxies resolved", s.proxiesResolved), ("Proxy types removed", s.proxyTypesRemoved),
   ("Call sites rewritten", s.callSitesRewritten), ("Strings decrypted", s.stringsDecrypted),
   ("Constants decrypted", s.constantsDecrypted), ("Sites failed", s.sitesFailed),
   ("Candidates skipped", s.candidatesSkipped)]

def blanks (n : Nat) : String := String.ofList (List.replicate n ' ')

/-- Two columns, labels on the left and counts on the right, with two blanks between them. -/
def table (rows : List (String × Nat)) : List String :=
  let width := (rows.map fun row => row.1.length).foldl max 0
  let digits := (rows.map fun row => (toString row.2).length).foldl max 0
  rows.map fun row =>
    row.1 ++ blanks (width - row.1.length + 2 + (digits - (toString row.2).length)) ++
      toString row.2

/-- Seconds with one place. The quotient is first taken to binary64, whose exact value is then
rounded. -/
def seconds (millis : Nat) : String :=
  let whole := Decimal.toBinary ⟨millis, 1⟩
  let time := Decimal.toBinary ⟨whole.num, whole.den * 1000⟩
  Decimal.fixed 1 time.num time.den

/-- A titled list, left out when it is empty. -/
def messages (title : String) : List String → List String
  | [] => []
  | list => ("  " ++ title ++ ": " ++ toString list.length) :: list.map ("    - " ++ ·)

def lines (r : Report) : List String :=
  ("Deobfuscation complete: " ++ r.file ++ " -> " ++ r.output) ::
    (table (counters r.stats)).map ("  " ++ ·) ++
    ["  Time: " ++ seconds r.millis ++ "s"] ++
    messages "Warnings" r.warnings ++ messages "Errors" r.errors

def render (r : Report) : String := String.join (r.lines.map (· ++ "\n"))

end Report

end Unmask.Command
