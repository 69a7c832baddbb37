import Unmask.Engine
import Unmask.Proofs.Decrypt.Frame

/-!
# The frame of the engine

Whatever the resolver and the host do, a run of the engine leaves alone all but method bodies and
proxy types, and each slot of a body that is left is what it was or has changed as `SlotChange`
allows.
-/

namespace Unmask

/-! ## The proxy pass as a sequence of edits -/

namespace Proxy

variable {resolver : Resolver} {proxies : List ProxyType} {methods : List DecryptMethod}

theorem Visit.redirect_edits {v : Visit} (hv : v.proxy ∈ proxies) (body : Array Instruction) :
    BodyEdits proxies methods body (body.map (v.redirect resolver)) := by
  cases hres : v.resolved? resolver with
  | none =>
    have hid : v.redirect resolver = id := by
      funext i
      simp [redirect, hres]
    rw [hid, Array.map_id]
  | some target =>
    rw [redirect_eq hres]
    exact .single (.redirect hv (target_isMemberRef hres) (callKind_mem target) body)

theorem redirectAll_edits {vs : List Visit} (hvs : ∀ v ∈ vs, v.proxy ∈ proxies)
    (body : Array Instruction) :
    BodyEdits proxies methods body (body.map (redirectAll resolver vs)) := by
  induction vs generalizing body with
  | nil =>
    have hid : redirectAll resolver [] = id := rfl
    rw [hid, Array.map_id]
  | cons v rest ih =>
    have hcons : redirectAll resolver (v :: rest) =
        redirectAll resolver rest ∘ v.redirect resolver := rfl
    rw [hcons, ← Array.map_map]
    exact (Visit.redirect_edits (hvs v List.mem_cons_self) body).trans
      (ih (fun w hw => hvs w (List.mem_cons_of_mem v hw)) _)

end Proxy

/-! ## The stages -/

namespace Engine

variable {σ : Type}

/-- The resolver that the proxy pass asks. -/
def resolverUsed (e : Engine σ) : Resolver := e.resolver.getD (resolveWith [])

/-- The proxies that a run meets. -/
def proxiesFound (e : Engine σ) (m : Module) : List ProxyType :=
  if e.config.resolveProxies then
    (Proxy.met e.resolverUsed e.config.removeProxyTypes m).map Proxy.Visit.proxy
  else []

/-- The decrypt methods of the helpers that a run finds once the proxies are done. -/
def decryptMethodsFound (e : Engine σ) (m : Module) (s : σ) : List DecryptMethod :=
  if e.config.decryptConstants then Decrypt.methodsFound (e.proxyStage m s).module else []

theorem proxyStage_module (e : Engine σ) (m : Module) (s : σ) :
    (e.proxyStage m s).module =
      if e.config.resolveProxies then Proxy.run e.resolverUsed e.config.removeProxyTypes m
      else m := by
  unfold proxyStage
  split
  · exact Proxy.pass_run_module e.resolverUsed e.config.removeProxyTypes m s
  · rfl

theorem proxyStage_framed (e : Engine σ) (methods : List DecryptMethod) (m : Module) (s : σ) :
    m.Framed (BodyEdits (e.proxiesFound m) methods) (e.proxyStage m s).module := by
  rw [proxyStage_module, proxiesFound]
  split
  · rw [Proxy.run_eq]
    refine .reduce (fun body => Proxy.redirectAll_edits (fun v hv => ?_) body) _ m
    exact List.mem_map_of_mem hv
  · exact .refl (fun _ => .refl) m

/-- The methods after the proxy stage have the tokens of methods that were there before. -/
theorem mem_methods_proxyStage {e : Engine σ} {m : Module} {s : σ} {d' : MethodDef}
    (h : d' ∈ (e.proxyStage m s).module.methods) : ∃ d ∈ m.methods, d.token = d'.token := by
  rw [proxyStage_module] at h
  split at h
  · obtain ⟨d, hd, rfl⟩ := Proxy.mem_methods_run h
    exact ⟨d, hd, rfl⟩
  · exact ⟨d', h, rfl⟩

theorem decryptStage_framed (e : Engine σ) (proxies : List ProxyType) (data : ByteArray)
    (m : Module) (s : σ) :
    m.Framed (BodyEdits proxies (if e.config.decryptConstants then Decrypt.methodsFound m else []))
      (e.decryptStage data m s).module := by
  unfold decryptStage
  split
  · split
    · exact Decrypt.run_framed proxies _ data e.config.numericOracle m { host := s }
    · exact .refl (fun _ => .refl) m
  · exact .refl (fun _ => .refl) m

/-- A run edits bodies and takes out types, and nothing else. -/
theorem process_edits (e : Engine σ) (data : ByteArray) (m : Module) (s : σ) :
    m.Framed (BodyEdits (e.proxiesFound m) (e.decryptMethodsFound m s))
      (e.process data m s).module := by
  have hfirst := e.proxyStage_framed (e.decryptMethodsFound m s) m s
  have hsecond := e.decryptStage_framed (e.proxiesFound m) data (e.proxyStage m s).module
    (e.proxyStage m s).state
  unfold process
  simp only
  split
  · exact hfirst
  · exact hfirst.trans (fun _ _ _ => .trans) hsecond

theorem entry_isMethodDef {e : Engine σ} {m : Module}
    (htable : ∀ d ∈ m.methods, d.token.isMethodDef) {p : ProxyType}
    (hp : p ∈ e.proxiesFound m) : p.entry.isMethodDef := by
  unfold proxiesFound at hp
  split at hp
  · obtain ⟨v, hv, rfl⟩ := List.mem_map.1 hp
    exact Proxy.met_entry_isMethodDef htable hv
  · exact absurd hp List.not_mem_nil

theorem decryptToken_isMethodDef {e : Engine σ} {m : Module} {s : σ}
    (htable : ∀ d ∈ m.methods, d.token.isMethodDef) {c : DecryptMethod}
    (hc : c ∈ e.decryptMethodsFound m s) : c.token.isMethodDef := by
  unfold decryptMethodsFound at hc
  split at hc
  · obtain ⟨d', hd', htoken'⟩ := Decrypt.mem_methodsFound hc
    obtain ⟨d, hd, htoken⟩ := mem_methods_proxyStage hd'
    exact htoken' ▸ htoken ▸ htable d hd
  · exact absurd hc List.not_mem_nil

/-- A run leaves alone all but bodies and the presence of types: a body keeps its length, and a slot
of it is what it was or a proxied call now direct, a decrypt call now its literal, or the constant
used up by one. -/
theorem process_framed (e : Engine σ) (data : ByteArray) {m : Module}
    (htable : ∀ d ∈ m.methods, d.token.isMethodDef) (s : σ) :
    m.Framed (BodyLaw (e.proxiesFound m) (e.decryptMethodsFound m s)) (e.process data m s).module :=
  (e.process_edits data m s).mono fun _ _ hedits =>
    BodyLaw.of_edits (fun _ hp => entry_isMethodDef htable hp)
      (fun _ hc => decryptToken_isMethodDef htable hc) hedits

/-- Two decrypt calls in a row, the second one on the result of the first, and a third one that the
host does not answer. -/
theorem process_framed_numberModule :
    let e : Engine (List HostCall) := { host := some Decrypt.numberHost.host }
    let m := Decrypt.numberModule #[⟨.ldcI4, .immediate (.int32 7)⟩, .call ⟨0x06000002⟩,
      .call ⟨0x06000002⟩, .call ⟨0x06000002⟩]
    let after := Decrypt.numberModule #[.nop, .nop, ⟨.ldcI4, .immediate (.int32 9)⟩,
      .call ⟨0x06000002⟩]
    (e.process .empty m []).module = after ∧
      m.Framed (BodyLaw (e.proxiesFound m) (e.decryptMethodsFound m [])) after := by
  intro e m after
  have hafter : (e.process .empty m []).module = after := by decide +kernel
  exact ⟨hafter, hafter ▸ e.process_framed .empty (by decide) []⟩

end Engine

end Unmask
