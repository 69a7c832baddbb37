import Unmask.Proofs.Decrypt.Flag
import Unmask.Proofs.Decrypt.Ledger
import Unmask.Proofs.Engine.Frame
import Unmask.Proofs.Proxy.Idle

/-!
# What a run says about changes

The flags that the passes return are exact. The events of a run tell of a change if the module has
changed, and in one more case: a proxy that is replaced counts as a change even if it is idle, so
that there was no call to redirect and its type stays.
-/

namespace Unmask

/-! ## Two counts of the same events -/

theorem EventLog.hasChanges_iff {log : EventLog} :
    log.hasChanges ↔ ∃ e ∈ log, e.kind.isTransformation := by
  unfold hasChanges transformationCount
  rw [decide_eq_true_eq, ← List.countP_eq_length_filter, List.countP_pos_iff]

theorem EventLog.transformationCount_cons (e : Event) (log : EventLog) :
    transformationCount (e :: log) =
      transformationCount log + if e.kind.isTransformation then 1 else 0 := by
  simp only [transformationCount, ← List.countP_eq_length_filter, List.countP_cons]

theorem EventLog.count_cons (e : Event) (log : EventLog) (kind : EventKind) :
    count (e :: log) kind = count log kind + if e.kind = kind then 1 else 0 := by
  simp only [count, ofKind, ← List.countP_eq_length_filter, List.countP_cons, decide_eq_true_eq]

/-- The transformations are counted kind by kind in the statistics. -/
theorem EventLog.transformationCount_eq (log : EventLog) :
    log.transformationCount = log.count .proxyResolved + log.count .proxyTypeRemoved +
      log.count .callSiteRewritten + log.count .stringDecrypted +
      log.count .constantDecrypted := by
  induction log with
  | nil => rfl
  | cons e rest ih =>
    simp only [transformationCount_cons, count_cons, ih]
    cases e.kind <;> simp [EventKind.isTransformation] <;> omega

theorem Stats.ofLog_hasChanges (log : EventLog) (nanos : Nat) :
    (Stats.ofLog log nanos).hasChanges = log.hasChanges := by
  rw [EventLog.hasChanges, EventLog.transformationCount_eq]
  rfl

namespace Engine

variable {σ : Type}

/-- The proxies that a run meets, each in the module as it then is. -/
def proxiesMet (e : Engine σ) (m : Module) : List Proxy.Visit :=
  if e.config.resolveProxies then Proxy.met e.resolverUsed e.config.removeProxyTypes m else []

/-- The proxies that a run replaces. -/
def proxiesReplaced (e : Engine σ) (m : Module) : List Proxy.Visit :=
  (e.proxiesMet m).filter fun v => (v.resolved? e.resolverUsed).isSome

/-! ## The stages -/

/-- The records around a pass tell of no change. -/
theorem runPass_transformation_iff {τ : Type} (pass : Pass τ) (m : Module) (s : τ) :
    (∃ e ∈ (runPass pass m s).journal.events, e.kind.isTransformation) ↔
      ∃ e ∈ (pass.run m s).journal.events, e.kind.isTransformation := by
  have hinfo : ¬ EventKind.info.isTransformation := Bool.false_ne_true
  simp [runPass, hinfo]

theorem proxyStage_transformation_iff (e : Engine σ) (m : Module) (s : σ) :
    (∃ ev ∈ (e.proxyStage m s).journal.events, ev.kind.isTransformation) ↔
      ∃ v, v ∈ e.proxiesReplaced m := by
  unfold proxyStage proxiesReplaced proxiesMet
  split
  · rw [runPass_transformation_iff]
    exact Proxy.pass_transformation_iff _ _ _ _
  · simp

theorem decryptStage_transformation_iff (e : Engine σ) (data : ByteArray) {m : Module}
    (hmethods : (m.methods.map MethodDef.token).Nodup) (s : σ) :
    (∃ ev ∈ (e.decryptStage data m s).journal.events, ev.kind.isTransformation) ↔
      (e.decryptStage data m s).module ≠ m := by
  unfold decryptStage
  split
  · split
    · rw [runPass_transformation_iff]
      exact Decrypt.run_transformation_iff _ data _ hmethods { host := s }
    · have hwarning : ¬ EventKind.warning.isTransformation := Bool.false_ne_true
      simp [hwarning]
  · simp

theorem proxyStage_changed (e : Engine σ) (m : Module) (s : σ) :
    ∃ changed, (e.proxyStage m s).changed = .ok changed := by
  unfold proxyStage
  split
  · exact (Proxy.processAll_spec _ _ _ m).2
  · exact ⟨false, rfl⟩

/-- The proxy stage does not fail, so the decrypt stage takes over from it. -/
theorem process_stages (e : Engine σ) (data : ByteArray) (m : Module) (s : σ) :
    let first := e.proxyStage m s
    let second := e.decryptStage data first.module first.state
    (e.process data m s).module = second.module ∧
      (e.process data m s).journal.events = first.journal.events ++ second.journal.events := by
  obtain ⟨changed, hchanged⟩ := e.proxyStage_changed m s
  have hidle : (if e.config.anyEnabled then {} else
      Journal.record (.debug "All passes disabled") : Journal).events = [] := by
    split <;> rfl
  unfold process
  simp only [hchanged, Journal.events_append, hidle, List.nil_append]
  exact ⟨trivial, trivial⟩

theorem proxyStage_methods_nodup (e : Engine σ) {m : Module} (s : σ)
    (hmethods : (m.methods.map MethodDef.token).Nodup) :
    ((e.proxyStage m s).module.methods.map MethodDef.token).Nodup := by
  rw [proxyStage_module]
  split
  · exact hmethods.sublist (Proxy.processAll_reduces _ _ _ m).methods_sublist
  · exact hmethods

/-- What the proxy stage does to a module is not undone: the decrypt stage brings up no call of a
method definition and no type. -/
theorem proxyStage_eq_self {e : Engine σ} {data : ByteArray} {m : Module} {s : σ}
    (htable : ∀ d ∈ m.methods, d.token.isMethodDef) (hsame : (e.process data m s).module = m) :
    (e.proxyStage m s).module = m := by
  have hframed := e.decryptStage_framed [] data (e.proxyStage m s).module (e.proxyStage m s).state
  rw [← (e.process_stages data m s).1, hsame] at hframed
  have hlaw : (e.proxyStage m s).module.Framed (BodyLaw [] (e.decryptMethodsFound m s)) m :=
    hframed.mono fun _ _ hedits =>
      BodyLaw.of_edits (fun _ hp => absurd hp List.not_mem_nil)
        (fun _ hc => decryptToken_isMethodDef htable hc) hedits
  rw [proxyStage_module] at hlaw ⊢
  by_cases hresolve : e.config.resolveProxies
  · rw [if_pos hresolve, Proxy.run_eq] at hlaw ⊢
    obtain ⟨hreduce, hbodies⟩ := hlaw.of_reduce ⟨rfl, fun _ => .inl rfl⟩
    rw [hreduce]
    refine Module.mapCode_eq_self fun i hi => ?_
    obtain ⟨d, hd, hcode⟩ := Module.mem_slots.1 hi
    rcases Proxy.redirectAll_exact (fun v hv => Proxy.met_entry_isMethodDef htable hv) i with
      ⟨hstay, -⟩ | ⟨v, hv, target, -, hcall, -⟩
    · exact hstay
    · -- the slot calls an entry at the end, so it did in between
      obtain ⟨k, hk⟩ := Array.mem_iff_getElem?.1 hcode
      have hbetween := (hbodies d hd).calls_unchanged hk
        (Proxy.met_entry_isMethodDef htable hv) hcall
      rw [Array.getElem?_map, hk] at hbetween
      exact Option.some.inj hbetween
  · rw [if_neg hresolve]

/-- Where a run leaves the module as it is, every proxy it meets is idle. -/
theorem idle_of_process_eq_self {e : Engine σ} {data : ByteArray} {m : Module} {s : σ}
    (htable : ∀ d ∈ m.methods, d.token.isMethodDef) (hsame : (e.process data m s).module = m) :
    ∀ v ∈ e.proxiesMet m, v.Idle e.resolverUsed e.config.removeProxyTypes := by
  have hfirst := proxyStage_eq_self htable hsame
  rw [proxyStage_module] at hfirst
  unfold proxiesMet
  by_cases hresolve : e.config.resolveProxies
  · rw [if_pos hresolve] at hfirst ⊢
    exact (Proxy.run_eq_self_iff htable).1 hfirst
  · simp [hresolve]

theorem proxyStage_eq_self_of_not_replaced {e : Engine σ} {m : Module} (s : σ)
    (h : ∀ v, v ∉ e.proxiesReplaced m) : (e.proxyStage m s).module = m := by
  rw [proxyStage_module]
  by_cases hresolve : e.config.resolveProxies
  · rw [if_pos hresolve]
    refine Proxy.run_eq_self_of_idle fun v hv hresolved => absurd ?_ (h v)
    rw [proxiesReplaced, proxiesMet, if_pos hresolve]
    exact List.mem_filter.2 ⟨hv, hresolved⟩
  · rw [if_neg hresolve]

/-- The statistics tell of a change exactly if the events do. They do if the module has changed, and
also if a proxy was replaced while the module stays as it was, since each proxy met was idle. -/
theorem process_hasChanges_iff (e : Engine σ) (data : ByteArray) {m : Module}
    (hmethods : (m.methods.map MethodDef.token).Nodup)
    (htable : ∀ d ∈ m.methods, d.token.isMethodDef) (s : σ) (nanos : Nat) :
    let done := e.process data m s
    (Stats.ofLog done.journal.events nanos).hasChanges = done.journal.events.hasChanges ∧
      (done.journal.events.hasChanges ↔ done.module ≠ m ∨ ∃ v, v ∈ e.proxiesReplaced m) ∧
      (done.module = m →
        ∀ v ∈ e.proxiesMet m, v.Idle e.resolverUsed e.config.removeProxyTypes) := by
  intro done
  obtain ⟨hmodule, hevents⟩ := e.process_stages data m s
  have hfirst := e.proxyStage_transformation_iff m s
  have hsecond := e.decryptStage_transformation_iff data (e.proxyStage_methods_nodup s hmethods)
    (e.proxyStage m s).state
  refine ⟨Stats.ofLog_hasChanges _ nanos, ?_, idle_of_process_eq_self htable⟩
  rw [EventLog.hasChanges_iff, hevents]
  simp only [List.mem_append, or_and_right, exists_or, hfirst, hsecond]
  by_cases hreplaced : ∃ v, v ∈ e.proxiesReplaced m
  · exact ⟨fun _ => .inr hreplaced, fun _ => .inl hreplaced⟩
  · have hsame := proxyStage_eq_self_of_not_replaced s fun v hv => hreplaced ⟨v, hv⟩
    rw [← hmodule, hsame]
    exact or_comm

/-- A program that calls a proxy is changed, and the events say so. -/
theorem process_hasChanges_called :
    let e : Engine Unit := {}
    let m := Proxy.sampleModule [Proxy.sampleProxy ⟨0x02000001⟩ "Gateway" none 0x06000001 #[],
      Proxy.sampleProgram [⟨0x06000003⟩]]
    let done := e.process .empty m ()
    (m.methods.map MethodDef.token).Nodup ∧ (∀ d ∈ m.methods, d.token.isMethodDef) ∧
      done.module ≠ m ∧ done.journal.events.hasChanges ∧
      (Stats.ofLog done.journal.events 0).hasChanges := by
  intro e m done
  have hmethods : (m.methods.map MethodDef.token).Nodup := by decide
  have htable : ∀ d ∈ m.methods, d.token.isMethodDef := by decide
  have hchanged : done.module ≠ m := by decide +kernel
  obtain ⟨hstats, hevents, -⟩ := e.process_hasChanges_iff .empty hmethods htable () 0
  have hreported : done.journal.events.hasChanges := hevents.2 (.inl hchanged)
  exact ⟨hmethods, htable, hchanged, hreported, hstats.trans hreported⟩

/-- Where the types of proxies are to stay, a proxy that nothing calls is reported as replaced: the
events and the statistics tell of a change, and the module is as it was. -/
theorem hasChanges_of_idle_proxy :
    let e : Engine Unit := { config := { removeProxyTypes := false } }
    let m := Proxy.sampleModule [Proxy.sampleProxy ⟨0x02000001⟩ "Gateway" none 0x06000001 #[],
      Proxy.sampleProgram []]
    let done := e.process .empty m ()
    (m.methods.map MethodDef.token).Nodup ∧ (∀ d ∈ m.methods, d.token.isMethodDef) ∧
      done.module = m ∧ done.journal.events.hasChanges ∧
      (Stats.ofLog done.journal.events 0).hasChanges := by
  decide +kernel

end Engine

/-! ## The flags -/

/-- Either pass reports a change exactly if there is one: the proxy pass where the methods have
tokens of definitions, so that no direct call is redirected again, and the decrypt pass always,
whatever answers it brings along and whatever the host says. -/
theorem passes_changed {σ τ : Type} (resolver : Resolver) (removeTypes : Bool) (s : τ)
    (host : Host σ) (data : ByteArray) (numeric : Decrypt.NumericOracle) (o : Decrypt.Oracle σ) :
    (∀ m : Module, (∀ d ∈ m.methods, d.token.isMethodDef) →
      let done := (Proxy.pass resolver removeTypes).run m s
      done.changed = .ok (decide (done.module ≠ m))) ∧
    ∀ m : Module,
      let done := (Decrypt.pass host data numeric).run m o
      done.changed = .ok (decide (done.module ≠ m)) :=
  ⟨fun _ htable => Proxy.pass_changed htable s, fun m => Decrypt.run_changed host data numeric m o⟩

/-- A pass that changes a module and one that does not, of either kind. -/
theorem passes_changed_samples :
    let idle := Proxy.sampleModule [Proxy.sampleProxy ⟨0x02000001⟩ "Gateway" none 0x06000001 #[],
      Proxy.sampleProgram []]
    let called := Proxy.sampleModule [Proxy.sampleProxy ⟨0x02000001⟩ "Gateway" none 0x06000001 #[],
      Proxy.sampleProgram [⟨0x06000003⟩]]
    let encrypted := Decrypt.numberModule #[⟨.ldcI4, .immediate (.int32 7)⟩, .call ⟨0x06000002⟩]
    let unknown := Decrypt.numberModule #[⟨.ldcI4, .immediate (.int32 6)⟩, .call ⟨0x06000002⟩]
    let proxies (m : Module) := ((Proxy.pass (resolveWith []) false).run m ()).changed
    let constants (m : Module) :=
      ((Decrypt.pass Decrypt.numberHost.host .empty .typeMatched).run m { host := [] }).changed
    (∀ d ∈ idle.methods, d.token.isMethodDef) ∧ (∀ d ∈ called.methods, d.token.isMethodDef) ∧
      proxies idle = .ok false ∧ proxies called = .ok true ∧
      constants encrypted = .ok true ∧ constants unknown = .ok false := by
  intro idle called encrypted unknown proxies constants
  obtain ⟨hproxies, hconstants⟩ := passes_changed (resolveWith []) false ()
    Decrypt.numberHost.host .empty .typeMatched { host := [] }
  have hidle : ∀ d ∈ idle.methods, d.token.isMethodDef := by decide
  have hcalled : ∀ d ∈ called.methods, d.token.isMethodDef := by decide
  refine ⟨hidle, hcalled, (hproxies idle hidle).trans ?_, (hproxies called hcalled).trans ?_,
    (hconstants encrypted).trans ?_, (hconstants unknown).trans ?_⟩ <;> decide +kernel

end Unmask
