import Unmask.Proofs.Decrypt.Helper
import Unmask.Proofs.Decrypt.Literal

/-!
# The decrypt pass without a table of answers

The same walk over helpers, methods and sites, but the host is asked afresh at every site. Only the
events are kept, no log records.
-/

namespace Unmask.Decrypt.Uncached

variable {σ : Type}

/-- The host's state and the events so far. -/
structure Walk (σ : Type) where
  host : σ
  events : EventLog := []

def Walk.note (walk : Walk σ) (e : Event) : Walk σ := { walk with events := walk.events ++ [e] }

/-- Decrypts one site: asks the live method with the constant loaded right before it. -/
def patchSite (host : Host σ) (method : DecryptMethod) (image : ImageId) (typeName name : String) :
    Patcher (Walk σ) := fun site walk =>
  if !isSite method site.instruction then (none, walk)
  else
    match site.previous?.bind Instruction.constant? with
    | none =>
      (none, walk.note (siteEvent .siteFailed site ("non-constant argument to " ++ method.name)))
    | some arg =>
      let reply := host.invoke image typeName name [.int32 arg] walk.host
      let walk := { walk with host := reply.state }
      let question := method.name ++ "(" ++ toString arg.toInt ++ ")"
      match reply.value.bind method.kind.literal with
      | .error e => (none, walk.note (siteEvent .siteFailed site (question ++ ": " ++ e.message)))
      | .ok load =>
        (some [⟨site.index - 1, .nop⟩, ⟨site.index, load⟩],
          walk.note (siteEvent method.kind.eventKind site
            (question ++ " = " ++ load.operand.display?.getD "")))

structure Progress (σ : Type) where
  module : Module
  walk : Walk σ
  /-- The number of sites decrypted. -/
  rewritten : Nat := 0

namespace Progress

/-- After an answer that left the host in the state `s`. -/
def heard (p : Progress σ) (s : σ) : Progress σ := { p with walk.host := s }

def note (p : Progress σ) (e : Event) : Progress σ := { p with walk := p.walk.note e }

end Progress

/-- Decrypts the sites of one method, unless no live method answers for it. -/
def decryptMethod (host : Host σ) (numeric : NumericOracle) (image : ImageId)
    (helper : DecryptHelper) (p : Progress σ) (method : DecryptMethod) : Progress σ :=
  let skipped (message : String) : Event :=
    { kind := .warning, token := some method.token, message, pass := some passName }
  match oracleFor? numeric helper method with
  | none => p.note (skipped ("no oracle for " ++ method.name))
  | some oracle =>
    let reply := host.findMethod image helper.runtimeName oracle.name p.walk.host
    let p := p.heard reply.state
    if reply.value then
      let patcher := patchSite host method image helper.runtimeName oracle.name
      let edited := p.module.patch patcher p.walk
      ⟨edited.module, edited.state, p.rewritten + edited.count⟩
    else
      let name := helper.runtimeName ++ "::" ++ oracle.name
      p.note (skipped ("live method " ++ name ++ " not found"))

/-- Works through the helpers up to the first one whose live type is missing. -/
def decryptHelpers (host : Host σ) (numeric : NumericOracle) (image : ImageId) :
    List DecryptHelper → Progress σ → Progress σ
  | [], p => p
  | helper :: rest, p =>
    let reply := host.findType image helper.runtimeName p.walk.host
    let p := p.heard reply.state
    if reply.value then
      decryptHelpers host numeric image rest
        (helper.methods.foldl (decryptMethod host numeric image helper) p)
    else
      p.note
        { kind := .error, token := some helper.typeToken
          message := "live type " ++ helper.runtimeName ++ " not found", pass := some passName }

/-- What a run over a module leaves. -/
structure Outcome (σ : Type) where
  module : Module
  events : EventLog
  changed : Bool
  host : σ

def run (host : Host σ) (data : ByteArray) (numeric : NumericOracle) (m : Module) (s : σ) :
    Outcome σ :=
  let found := (helpers m).1
  if found.isEmpty then ⟨m, [], false, s⟩
  else
    let reply := host.load data s
    match reply.value with
    | .error e =>
      let note : Event :=
        { kind := .warning
          message := "decryption skipped, oracle unavailable: " ++ e.message
          pass := some passName }
      ⟨m, [note], false, reply.state⟩
    | .ok image =>
      let p := decryptHelpers host numeric image found ⟨m, { host := reply.state }, 0⟩
      ⟨p.module, p.walk.events, 0 < p.rewritten, p.walk.host⟩

/-- Runs over modules one after the other. -/
def runAll (host : Host σ) (data : ByteArray) (numeric : NumericOracle) :
    List Module → σ → List (Outcome σ)
  | [], _ => []
  | m :: rest, s =>
    let done := run host data numeric m s
    done :: runAll host data numeric rest done.host

/-- The site is a call of the method with a constant loaded right before it, and the live method
answers that constant with `v`, a value of exactly the method's kind. -/
def Answered (host : Host σ) (method : DecryptMethod) (image : ImageId) (typeName name : String)
    (s : σ) (site : Site) (v : Value) : Prop :=
  site.instruction = .call method.token ∧ ∃ arg,
    site.previous?.bind Instruction.constant? = some arg ∧
    (host.invoke image typeName name [.int32 arg] s).value = .ok v ∧ v.kind? = some method.kind

section Site

variable {host : Host σ} {method : DecryptMethod} {image : ImageId} {typeName name : String}
  {site : Site} {walk : Walk σ}

/-- Where the answer is right, the load becomes a `nop` and the call the literal. -/
theorem patchSite_answered {v : Value}
    (h : Answered host method image typeName name walk.host site v) :
    ∃ load, method.kind.literal v = .ok load ∧
      (patchSite host method image typeName name site walk).1 =
        some [⟨site.index - 1, .nop⟩, ⟨site.index, load⟩] := by
  obtain ⟨hcall, arg, harg, hv, hkind⟩ := h
  obtain ⟨load, hload⟩ := LiteralKind.exists_literal_iff.2 hkind
  refine ⟨load, hload, ?_⟩
  simp [patchSite, isSite_iff.2 hcall, harg, hv, hload, Except.bind]

/-- A site is decrypted exactly if the answer is right. -/
theorem patchSite_isSome_iff : (patchSite host method image typeName name site walk).1.isSome ↔
    ∃ v, Answered host method image typeName name walk.host site v := by
  constructor
  · intro h
    unfold patchSite at h
    split at h
    · cases h
    rename_i hsite
    split at h
    · cases h
    rename_i arg harg
    simp only at h
    split at h
    · cases h
    rename_i load hload
    obtain ⟨v, hv, hliteral⟩ := bind_eq_ok hload
    exact ⟨v, isSite_iff.1 (by simpa using hsite), arg, harg, hv,
      (LiteralKind.literal_eq_ok hliteral).1⟩
  · rintro ⟨v, hanswered⟩
    obtain ⟨load, -, hpatched⟩ := patchSite_answered hanswered
    simp [hpatched]

end Site

end Unmask.Decrypt.Uncached
