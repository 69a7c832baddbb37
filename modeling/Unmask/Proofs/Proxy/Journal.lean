import Unmask.Proofs.Proxy.Run

/-!
# The journal of a run

A run reports what it did proxy by proxy, in the order in which it met them. So what the events of
one kind say of a run follows from what they say of one proxy: a proxy is reported as resolved,
once, exactly if it is replaced.
-/

namespace Unmask

namespace EventLog

@[simp] theorem ofKind_append (kind : EventKind) (a b : EventLog) :
    ofKind (a ++ b) kind = ofKind a kind ++ ofKind b kind := List.filter_append a b

theorem ofKind_flatMap {α : Type} (kind : EventKind) (f : α → EventLog) (l : List α) :
    ofKind (l.flatMap f) kind = l.flatMap fun a => ofKind (f a) kind := by
  induction l with
  | nil => rfl
  | cons a rest ih => simp only [List.flatMap_cons, ofKind_append, ih]

end EventLog

namespace Proxy

variable {resolver : Resolver} {removeTypes : Bool} {m : Module}

@[simp] theorem event_kind (kind : EventKind) (t : Token) (message : String) :
    (event kind t message).kind = kind := rfl

@[simp] theorem event_token (kind : EventKind) (t : Token) (message : String) :
    (event kind t message).token = some t := rfl

/-- Events of another kind do not count. -/
theorem ofKind_map_event {kind other : EventKind} (h : other ≠ kind) (message : String)
    (ts : List Token) : EventLog.ofKind (ts.map fun t => event other t message) kind = [] := by
  simp [EventLog.ofKind, h]

/-- What is reported about one proxy. -/
def Visit.events (resolver : Resolver) (removeTypes : Bool) (v : Visit) : EventLog :=
  (process resolver removeTypes v.module v.proxy).journal.events

/-- A run reports on the proxies it meets, one after the other. -/
theorem processAll_events (resolver : Resolver) (removeTypes : Bool) (ts : List Token)
    (m : Module) : (processAll resolver removeTypes ts m).journal.events =
      (visits resolver removeTypes ts m).flatMap (Visit.events resolver removeTypes) := by
  induction ts, m using run_induction resolver removeTypes with
  | done m => rfl
  | pass t rest m h ih =>
    obtain ⟨-, -, hevents⟩ := processAll_pass h rest
    rw [hevents, visits_pass h, ih]
  | meet t rest m proxy h ih =>
    obtain ⟨-, _, -, -, hevents⟩ := processAll_meet h rest
    rw [hevents, visits_meet h, ih]
    rfl

/-- The tokens of events of one kind, in order. -/
theorem tokens_map_event (kind : EventKind) (message : String) (ts : List Token) :
    (EventLog.ofKind (ts.map fun t => event kind t message) kind).map Event.token =
      ts.map some := by
  simp [EventLog.ofKind, List.filter_map, Function.comp_def]

theorem skip_ofKind {kind : EventKind} (h : kind ≠ .candidateSkipped) (m : Module) (ty : Token)
    (reason : String) (changed : Bool) :
    (skip m ty reason changed).journal.events.ofKind kind = [] := by
  simp [skip, EventLog.ofKind, h.symm]

/-- About the type of a proxy nothing is reported but that it stays or goes. -/
theorem removeProxy_ofKind {kind : EventKind} (hskipped : kind ≠ .candidateSkipped)
    (hremoved : kind ≠ .proxyTypeRemoved) (m : Module) (proxy : ProxyType) (typeName : String)
    (rewritten : Bool) :
    (removeProxy m proxy typeName rewritten).journal.events.ofKind kind = [] := by
  unfold removeProxy
  split
  · exact skip_ofKind hskipped _ _ _ _
  · split
    · rfl
    · exact ofKind_map_event hremoved.symm _ _

theorem Visit.journal_resolvedEvents (v : Visit) (target : ResolvedMethod) :
    ((v.journal target).events.ofKind .proxyResolved).map Event.token =
      [some v.proxy.typeToken] := by
  simp [Visit.journal, EventLog.ofKind]

/-- A proxy is reported as resolved exactly if it is replaced. -/
theorem Visit.resolvedEvents (resolver : Resolver) (removeTypes : Bool) (v : Visit) :
    ((v.events resolver removeTypes).ofKind .proxyResolved).map Event.token =
      if (v.resolved? resolver).isSome then [some v.proxy.typeToken] else [] := by
  unfold Visit.events
  cases hres : v.resolved? resolver with
  | none =>
    obtain ⟨reason, hskip⟩ := process_unresolved hres removeTypes
    rw [hskip]
    rfl
  | some target =>
    rw [process_resolved hres]
    cases removeTypes with
    | false => simpa using v.journal_resolvedEvents target
    | true => simpa [removeProxy_ofKind] using v.journal_resolvedEvents target

/-- The tokens of the events of one kind, proxy by proxy. -/
theorem pass_eventTokens {σ : Type} (resolver : Resolver) (removeTypes : Bool) (m : Module) (s : σ)
    (kind : EventKind) :
    (((pass resolver removeTypes).run m s).journal.events.ofKind kind).map Event.token =
      (met resolver removeTypes m).flatMap fun v =>
        ((v.events resolver removeTypes).ofKind kind).map Event.token := by
  show ((processAll resolver removeTypes (candidates m) m).journal.events.ofKind _).map _ = _
  rw [processAll_events, EventLog.ofKind_flatMap, List.map_flatMap]
  rfl

/-- The proxies reported as resolved are those replaced, in the order of the run. -/
theorem pass_resolvedEvents {σ : Type} (resolver : Resolver) (removeTypes : Bool) (m : Module)
    (s : σ) :
    (((pass resolver removeTypes).run m s).journal.events.ofKind .proxyResolved).map Event.token =
      (replaced resolver removeTypes m).map fun v => some v.proxy.typeToken := by
  rw [pass_eventTokens]
  unfold replaced met
  induction visits resolver removeTypes (candidates m) m with
  | nil => rfl
  | cons v rest ih =>
    rw [List.flatMap_cons, ih, Visit.resolvedEvents, List.filter_cons]
    split <;> rfl

/-! ## Events that tell of a change -/

/-- What is reported about a proxy tells of a change exactly if the proxy is replaced, whether or
not there is anything to be changed. -/
theorem Visit.transformation_iff (resolver : Resolver) (removeTypes : Bool) (v : Visit) :
    (∃ e ∈ v.events resolver removeTypes, e.kind.isTransformation) ↔
      (v.resolved? resolver).isSome := by
  constructor
  · rintro ⟨e, he, htransformation⟩
    by_contra hunresolved
    obtain ⟨reason, hskip⟩ :=
      process_unresolved (Option.not_isSome_iff_eq_none.1 hunresolved) removeTypes
    rw [events, hskip] at he
    obtain rfl := List.mem_singleton.1 he
    exact absurd htransformation Bool.false_ne_true
  · intro hresolved
    have hreported := v.resolvedEvents resolver removeTypes
    rw [if_pos hresolved] at hreported
    obtain ⟨e, rest, hevents, -⟩ := List.map_eq_cons_iff.1 hreported
    have he : e ∈ (v.events resolver removeTypes).ofKind .proxyResolved := by
      rw [hevents]
      exact List.mem_cons_self
    obtain ⟨hmem, hkind⟩ := List.mem_filter.1 he
    refine ⟨e, hmem, ?_⟩
    rw [of_decide_eq_true hkind]
    rfl

/-- The events of a run tell of a change exactly if a proxy is replaced. -/
theorem pass_transformation_iff {σ : Type} (resolver : Resolver) (removeTypes : Bool) (m : Module)
    (s : σ) :
    (∃ e ∈ ((pass resolver removeTypes).run m s).journal.events, e.kind.isTransformation) ↔
      ∃ v, v ∈ replaced resolver removeTypes m := by
  show (∃ e ∈ (processAll resolver removeTypes (candidates m) m).journal.events, _) ↔ _
  rw [processAll_events, replaced, met]
  constructor
  · rintro ⟨e, he, htransformation⟩
    obtain ⟨v, hv, hevent⟩ := List.mem_flatMap.1 he
    have hresolved := (v.transformation_iff resolver removeTypes).1 ⟨e, hevent, htransformation⟩
    exact ⟨v, List.mem_filter.2 ⟨hv, hresolved⟩⟩
  · rintro ⟨v, hv⟩
    obtain ⟨hmet, hresolved⟩ := List.mem_filter.1 hv
    obtain ⟨e, he, htransformation⟩ := (v.transformation_iff resolver removeTypes).2 hresolved
    exact ⟨e, List.mem_flatMap.2 ⟨v, hmet, he⟩, htransformation⟩

end Proxy

end Unmask
