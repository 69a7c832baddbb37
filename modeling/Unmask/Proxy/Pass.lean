import Unmask.Module.Edit
import Unmask.Module.Resolve
import Unmask.Module.Stack
import Unmask.Pass
import Unmask.Proxy.Detect

/-!
# Removing delegate proxies

Calls of a proxy's entry are replaced by direct calls of the member it stands for, and the proxy
type is taken out of the module, innermost types first. A proxy is left alone if its target is
unknown or would change the evaluation stack differently, and a proxy type stays if a type nested
in it is still in use elsewhere.
-/

namespace Unmask.Proxy

def passName : String := "proxy-resolution"

def event (kind : EventKind) (token : Token) (message : String) : Event :=
  { kind, token := some token, message, pass := some passName }

/-- The first method outside a type that names something nested in it: a nested type, or a method
of one. Members of the type itself are not looked for. -/
def outsideReference? (m : Module) (proxy : Token) : Option Token :=
  let doomed := m.typeAndNested proxy
  let nested := doomed.tail
  if nested.isEmpty then none
  else
    let members := (m.types.filter fun ty => ty.token ∈ nested).flatMap fun ty =>
      ty.methods.map MethodDef.token
    let outside := (m.types.filter fun ty => ty.token ∉ doomed).flatMap TypeDef.methods
    (outside.find? fun d => d.code.any fun i =>
      i.token?.any fun t => t ∈ nested || t ∈ members).map MethodDef.token

/-- What handling one proxy leaves. -/
structure Step where
  module : Module
  journal : Journal
  changed : Except Error Bool

/-- Leaves the module as it is, with a reason. -/
def skip (m : Module) (ty : Token) (reason : String) (changed : Bool := false) : Step :=
  { module := m
    journal := ⟨[event .candidateSkipped ty reason], [.debug reason]⟩
    changed := .ok changed }

/-- Why a resolved proxy cannot be replaced: the proxy and its target are known to change the stack
differently. -/
def stackMismatch? (m : Module) (proxy : ProxyType) (target : ResolvedMethod) :
    Option (Int8 × Int8) :=
  match m.callEffect? (.call proxy.entry),
      m.callEffect? ⟨target.callKind, .method proxy.target⟩ with
  | some before, some after => if before.net ≠ after.net then some (before.net, after.net) else none
  | _, _ => none

/-- Replaces the calls of the entry. The state lists the methods of the replaced calls, the last
one first. -/
def redirect (m : Module) (proxy : ProxyType) (opcode : OpCode) : Edited (List Token) :=
  m.replace (fun _ i sites => (i.calls proxy.entry, sites))
    (fun d _ sites => (⟨opcode, .method proxy.target⟩, d.token :: sites)) []

/-- Takes a proxy type out, unless a type nested in it is used from outside. -/
def removeProxy (m : Module) (proxy : ProxyType) (typeName : String) (rewritten : Bool) : Step :=
  match outsideReference? m proxy.typeToken with
  | some user =>
    skip m proxy.typeToken
      (typeName ++ ": kept, a nested type is still used by " ++ m.displayName user) rewritten
  | none =>
    match m.removeType proxy.typeToken with
    | .error e => ⟨m, {}, .error e⟩
    | .ok (removed, m) =>
      { module := m
        journal.events := removed.map fun t => event .proxyTypeRemoved t ("removed " ++ typeName)
        changed := .ok (rewritten || !removed.isEmpty) }

/-- Handles one proxy. -/
def process (resolver : Resolver) (removeTypes : Bool) (m : Module) (proxy : ProxyType) : Step :=
  let typeName := match m.typeDef? proxy.typeToken with
    | some ty => m.fullName ty
    | none => proxy.typeToken.display
  match m.memberRef? proxy.target with
  | none =>
    skip m proxy.typeToken (typeName ++ ": no MemberRef with token " ++ proxy.target.display)
  | some member =>
    match resolver m member with
    | none =>
      skip m proxy.typeToken
        (typeName ++ ": cannot resolve " ++ member.className ++ "::" ++ member.name)
    | some target =>
      match stackMismatch? m proxy target with
      | some (before, after) =>
        skip m proxy.typeToken
          (typeName ++ ": stack effect " ++ toString before.toInt ++
            " of the proxy differs from " ++ toString after.toInt ++ " of " ++ target.fullName)
      | none =>
        let edited := redirect m proxy target.callKind
        let message := target.callKind.display ++ " " ++ target.fullName
        let journal : Journal :=
          { events :=
              event .proxyResolved proxy.typeToken (typeName ++ " -> " ++ target.fullName) ::
                edited.state.reverse.map fun t => event .callSiteRewritten t message
            log :=
              [.info ("Resolved: " ++ target.fullName),
               .debug (typeName ++ ": " ++ toString edited.count ++ " call sites rewritten")] }
        let rewritten := 0 < edited.count
        if removeTypes then
          let step := removeProxy edited.module proxy typeName rewritten
          { step with journal := journal ++ step.journal }
        else ⟨edited.module, journal, .ok rewritten⟩

/-- Puts a candidate in front of the first one that is not deeper. -/
def insertByDepth (c : Nat × Token) : List (Nat × Token) → List (Nat × Token)
  | [] => [c]
  | d :: rest => if d.1 ≤ c.1 then c :: d :: rest else d :: insertByDepth c rest

/-- The delegate types, the deepest first, in module order among those of one depth. -/
def candidates (m : Module) : List Token :=
  let depths := (m.types.filter TypeDef.isDelegate).map fun ty => (m.nestingDepth ty, ty.token)
  (depths.foldr insertByDepth []).map (·.2)

/-- Handles the candidates in turn. A candidate that is gone or no proxy is passed over. -/
def processAll (resolver : Resolver) (removeTypes : Bool) : List Token → Module → Step
  | [], m => ⟨m, {}, .ok false⟩
  | t :: rest, m =>
    match (m.typeDef? t).map ProxyType.detect with
    | none => processAll resolver removeTypes rest m
    | some (none, log) =>
      let later := processAll resolver removeTypes rest m
      { later with journal := ⟨[], log⟩ ++ later.journal }
    | some (some proxy, log) =>
      let step := process resolver removeTypes m proxy
      let journal := ⟨[], log⟩ ++ step.journal
      match step.changed with
      | .error e => ⟨step.module, journal, .error e⟩
      | .ok changed =>
        let later := processAll resolver removeTypes rest step.module
        { module := later.module
          journal := journal ++ later.journal
          changed := later.changed.map (changed || ·) }

/-- The pass over a whole module. It talks to no host. -/
def pass {σ : Type} (resolver : Resolver) (removeTypes : Bool) : Pass σ where
  name := passName
  description := "Replaces calls through delegate proxies with direct calls to the proxied method"
  run m s :=
    let step := processAll resolver removeTypes (candidates m) m
    ⟨step.module, s, step.journal, step.changed⟩

end Unmask.Proxy
