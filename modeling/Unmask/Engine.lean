import Unmask.Decrypt.Pass
import Unmask.Event.Stats
import Unmask.Proxy.Pass

/-!
# The engine

Runs the enabled passes over a module, proxies before constants, and collects their events. With a
codec it starts from the bytes of an image and ends with those of another.
-/

namespace Unmask

structure Config where
  resolveProxies : Bool := true
  decryptConstants : Bool := true
  removeProxyTypes : Bool := true
  numericOracle : Decrypt.NumericOracle := .typeMatched
  deriving DecidableEq, Repr, Inhabited

namespace Config

def proxiesOnly : Config := { decryptConstants := false }

def decryptionOnly : Config := { resolveProxies := false }

def anyEnabled (c : Config) : Bool := c.resolveProxies || c.decryptConstants

end Config

/-- What is at hand for the passes. Without a resolver references resolve in the module itself,
without a host nothing is decrypted. -/
structure Engine (σ : Type) where
  config : Config := {}
  resolver : Option Resolver := none
  host : Option (Host σ) := none

/-- What a run over a module leaves. -/
structure Processed (σ : Type) where
  module : Module
  state : σ
  journal : Journal
  error : Option Error := none

namespace Engine

variable {σ : Type}

/-- Runs one pass between the records that announce it. -/
def runPass {τ : Type} (pass : Pass τ) (m : Module) (s : τ) : PassRun τ :=
  let start : Journal :=
    ⟨[{ kind := .info, message := "Starting pass: " ++ pass.name }],
      [.debug ("Starting pass: " ++ pass.name)]⟩
  let done := pass.run m s
  let finish : List LogRecord := match done.changed with
    | .ok changed =>
      [.debug ("Finished pass: " ++ pass.name ++ if changed then " (changed)" else " (unchanged)")]
    | .error _ => []
  { done with journal := start ++ done.journal ++ ⟨[], finish⟩ }

def proxyStage (e : Engine σ) (m : Module) (s : σ) : PassRun σ :=
  if e.config.resolveProxies then
    runPass (Proxy.pass (e.resolver.getD (resolveWith [])) e.config.removeProxyTypes) m s
  else ⟨m, s, {}, .ok false⟩

def decryptStage (e : Engine σ) (data : ByteArray) (m : Module) (s : σ) : PassRun σ :=
  if e.config.decryptConstants then
    match e.host with
    | some host =>
      let done := runPass (Decrypt.pass host data e.config.numericOracle) m { host := s }
      ⟨done.module, done.state.host, done.journal, done.changed⟩
    | none =>
      let note : Journal :=
        ⟨[{ kind := .warning, message := "decryption skipped, no execution host configured" }],
          [.info "No execution host configured, skipping the decryption"]⟩
      ⟨m, s, note, .ok false⟩
  else ⟨m, s, {}, .ok false⟩

/-- Runs the enabled passes. `data` are the bytes the module was read from: they, not the edited
module, are what the host executes. -/
def process (e : Engine σ) (data : ByteArray) (m : Module) (s : σ) : Processed σ :=
  let idle : Journal := if e.config.anyEnabled then {} else .record (.debug "All passes disabled")
  let first := e.proxyStage m s
  match first.changed with
  | .error err => ⟨first.module, first.state, idle ++ first.journal, some err⟩
  | .ok _ =>
    let second := e.decryptStage data first.module first.state
    let error := match second.changed with
      | .error err => some err
      | .ok _ => none
    ⟨second.module, second.state, idle ++ first.journal ++ second.journal, error⟩

/-- What a run from bytes to bytes leaves: on success the new image and the events. -/
structure Converted (σ : Type) where
  state : σ
  log : List LogRecord
  result : Except Error (ByteArray × EventLog)

/-- Reads a module, runs the enabled passes and writes the module. -/
def convert (e : Engine σ) (codec : Codec σ) (data : ByteArray) (s : σ) : Converted σ :=
  let loaded := codec.load data s
  match loaded.value with
  | .error err => ⟨loaded.state, loaded.log, .error err⟩
  | .ok m =>
    let found : LogRecord := .debug ("Loaded " ++ m.name ++ ": " ++ toString m.types.length ++
      " types, " ++ toString m.instructionCount ++ " instructions")
    let done := e.process data m loaded.state
    let log := loaded.log ++ [found] ++ done.journal.log
    match done.error with
    | some err => ⟨done.state, log, .error err⟩
    | none =>
      let written := codec.write done.module done.state
      ⟨written.state, log ++ written.log,
        written.value.map fun image => (image, done.journal.events)⟩

end Engine

/-- Whether the events of a run tell of a change. -/
def EventLog.hasChanges (log : EventLog) : Bool := 0 < log.transformationCount

end Unmask
