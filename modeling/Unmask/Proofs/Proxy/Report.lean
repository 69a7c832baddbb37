import Unmask.Proofs.Module.Depth
import Unmask.Proofs.Proxy.Journal
import Unmask.Proofs.Proxy.Redirect
import Unmask.Proofs.Proxy.Turns

/-!
# What a run reports is what it did

A run reports every call that it redirects under the token of the method, and every type that it
takes out. Proxies redirect calls in the same bodies in turn, and types that went take rewritten
methods with them; but a direct call is not redirected again, and what has gone does not go again.
So the events count the slots that have changed in the methods left, and list the missing types
without repetition.
-/

namespace Unmask

/-! ## Changed slots -/

/-- The number of slots in which two bodies differ. -/
def slotsChanged (before after : Array Instruction) : Nat :=
  (List.range (max before.size after.size)).countP fun k => after[k]? ≠ before[k]?

theorem countP_range_map (f : Instruction → Instruction) (l : List Instruction) :
    (List.range l.length).countP (fun k => (l.map f)[k]? ≠ l[k]?) =
      l.countP fun i => f i ≠ i := by
  induction l with
  | nil => rfl
  | cons i rest ih =>
    rw [List.length_cons, List.range_succ_eq_map, List.countP_cons, List.countP_map,
      List.countP_cons, ← ih]
    simp [Function.comp_def]

/-- Mapping the instructions changes the slots of those that the map does not fix. -/
theorem slotsChanged_map (f : Instruction → Instruction) (body : Array Instruction) :
    slotsChanged body (body.map f) = body.toList.countP fun i => f i ≠ i := by
  rw [← countP_range_map]
  simp [slotsChanged]

/-! ## The trace of an edit -/

variable {α β σ : Type}

/-- A trace that each item continues by what it contributes is continued by what the list
contributes. -/
theorem mapState_trace {f : α → σ → α × σ} (trace : σ → List β) {items : α → List β}
    (h : ∀ a s, trace (f a s).2 = trace s ++ items a) (l : List α) (s : σ) :
    trace (mapState f l s).2 = trace s ++ l.flatMap items := by
  induction l generalizing s with
  | nil => exact (List.append_nil _).symm
  | cons a rest ih =>
    have hrest : trace (mapState f (a :: rest) s).2 = trace (f a s).2 ++ rest.flatMap items :=
      ih (f a s).2
    rw [hrest, h, List.flatMap_cons, List.append_assoc]

namespace Proxy

/-- The methods of the calls of `entry`, one entry for each call. -/
def callSites (entry : Token) (ds : List MethodDef) : List Token :=
  ds.flatMap fun d => (d.code.toList.filter fun i => i.calls entry).map fun _ => d.token

theorem flatMap_calls (entry t : Token) (l : List Instruction) :
    (l.flatMap fun i => if i.calls entry then [t] else []) =
      (l.filter fun i => i.calls entry).map fun _ => t := by
  induction l with
  | nil => rfl
  | cons i rest ih =>
    by_cases hcall : i.calls entry
    · simp [hcall, ih]
    · simp [hcall, ih]

/-- The sites of a redirection are the calls of the entry, in their order. -/
theorem redirect_sites (m : Module) (proxy : ProxyType) (op : OpCode) :
    (redirect m proxy op).state.reverse = callSites proxy.entry m.methods := by
  let choose : Chooser (List Token) := fun _ i sites => (i.calls proxy.entry, sites)
  let produce : Producer (List Token) := fun d _ sites =>
    (⟨op, .method proxy.target⟩, d.token :: sites)
  have hslot : ∀ (d : MethodDef) i (s : List Token × Nat), (replacement choose produce d i s).2.1.reverse =
      s.1.reverse ++ if i.calls proxy.entry then [d.token] else [] := by
    intro d i s
    by_cases hcall : i.calls proxy.entry
    · simp [replacement, choose, produce, hcall]
    · simp [replacement, choose, hcall]
  have hmethod : ∀ (d : MethodDef) s, (d.mapSlots (replacement choose produce) s).2.1.reverse =
      s.1.reverse ++ (d.code.toList.filter fun i => i.calls proxy.entry).map fun _ => d.token := by
    intro d s
    cases hbody : d.body with
    | none => simp [MethodDef.mapSlots, MethodDef.code, hbody]
    | some body =>
      have htrace := mapState_trace (fun s => s.1.reverse) (hslot d) body.toList s
      rw [flatMap_calls] at htrace
      simpa only [MethodDef.mapSlots, MethodDef.code, hbody, Option.getD_some] using htrace
  have hchoose : IgnoresBody choose := fun _ _ _ _ => rfl
  have hproduce : IgnoresBody produce := fun _ _ _ _ => rfl
  have hmap := replace_eq_mapSlots hchoose hproduce m []
  have hstate := (editMethods_methods (MethodDef.mapSlots (replacement choose produce)) m ([], 0)).2
  have htrace := mapState_trace (fun s => s.1.reverse) hmethod m.methods ([], 0)
  rw [← hstate] at htrace
  exact (congrArg (fun x => x.2.1.reverse) hmap).symm.trans htrace

/-- With distinct tokens, the sites in a method are the calls in its body. -/
theorem count_callSites {entry : Token} {ds : List MethodDef}
    (hmethods : (ds.map MethodDef.token).Nodup) {d : MethodDef} (hd : d ∈ ds) :
    (callSites entry ds).count d.token = d.code.toList.countP fun i => i.calls entry := by
  have hown : ∀ e : MethodDef, ((e.code.toList.filter fun i => i.calls entry).map
      fun _ => e.token).count d.token =
        if e.token = d.token then e.code.toList.countP fun i => i.calls entry else 0 := by
    intro e
    rw [List.map_const', List.count_replicate, List.countP_eq_length_filter]
    simp
  induction ds with
  | nil => cases hd
  | cons e rest ih =>
    obtain ⟨hfresh, hrest⟩ := List.nodup_cons.1 hmethods
    rw [callSites, List.flatMap_cons, List.count_append, hown, ← callSites]
    rcases List.mem_cons.1 hd with rfl | hlater
    · have hnone : (callSites entry rest).count d.token = 0 := by
        refine List.count_eq_zero.2 fun hmem => hfresh ?_
        obtain ⟨u, hu, hsite⟩ := List.mem_flatMap.1 hmem
        obtain ⟨_, -, htoken⟩ := List.mem_map.1 hsite
        exact htoken ▸ List.mem_map_of_mem hu
      rw [if_pos rfl, hnone, Nat.add_zero]
    · have hne : e.token ≠ d.token := fun heq => hfresh (heq ▸ List.mem_map_of_mem hlater)
      rw [if_neg hne, ih hrest hlater, Nat.zero_add]

/-! ## The events of one proxy -/

variable {resolver : Resolver} {removeTypes : Bool} {m : Module}

/-- What is reported as taken out is what goes. -/
theorem removeProxy_removedEvents {m : Module} {proxy : ProxyType}
    (h : (m.typeDef? proxy.typeToken).isSome) (typeName : String) (rewritten : Bool) :
    ((removeProxy m proxy typeName rewritten).journal.events.ofKind .proxyTypeRemoved).map
        Event.token =
      (if (outsideReference? m proxy.typeToken).isNone then m.typeAndNested proxy.typeToken
        else []).map some := by
  obtain ⟨ty, hty⟩ := Option.isSome_iff_exists.1 h
  unfold removeProxy
  cases hout : outsideReference? m proxy.typeToken with
  | some user => simp [skip_ofKind]
  | none =>
    simp only [Module.removeType, hty, Option.isNone_none, if_true]
    exact tokens_map_event _ _ _

namespace Visit

theorem journal_removedEvents (v : Visit) (target : ResolvedMethod) :
    (v.journal target).events.ofKind .proxyTypeRemoved = [] := by
  simp [journal, EventLog.ofKind]

theorem removedEvents (resolver : Resolver) (removeTypes : Bool) {v : Visit}
    (h : (v.module.typeDef? v.proxy.typeToken).isSome) :
    ((v.events resolver removeTypes).ofKind .proxyTypeRemoved).map Event.token =
      (v.removed resolver removeTypes).map some := by
  unfold events removed
  cases hres : v.resolved? resolver with
  | none =>
    obtain ⟨reason, hskip⟩ := process_unresolved hres removeTypes
    rw [hskip, skip_ofKind (by decide)]
    simp
  | some target =>
    have hedit := module_redirected hres
    rw [process_resolved hres]
    cases removeTypes with
    | false => simp [journal_removedEvents]
    | true =>
      have hdeclared : ((v.module.mapCode (v.redirect resolver)).typeDef?
          v.proxy.typeToken).isSome := by
        simpa using h
      simp [journal_removedEvents, hedit, removeProxy_removedEvents hdeclared]

/-- The methods of the calls that are redirected, one entry for each call. -/
def sites (resolver : Resolver) (v : Visit) : List Token :=
  if (v.resolved? resolver).isSome then callSites v.proxy.entry v.module.methods else []

theorem journal_rewrittenEvents (v : Visit) (target : ResolvedMethod) :
    ((v.journal target).events.ofKind .callSiteRewritten).map Event.token =
      (callSites v.proxy.entry v.module.methods).map some := by
  rw [← redirect_sites v.module v.proxy target.callKind,
    ← tokens_map_event .callSiteRewritten (target.callKind.display ++ " " ++ target.fullName)]
  simp [journal, EventLog.ofKind]

theorem rewrittenEvents (resolver : Resolver) (removeTypes : Bool) (v : Visit) :
    ((v.events resolver removeTypes).ofKind .callSiteRewritten).map Event.token =
      (v.sites resolver).map some := by
  unfold events sites
  cases hres : v.resolved? resolver with
  | none =>
    obtain ⟨reason, hskip⟩ := process_unresolved hres removeTypes
    rw [hskip, skip_ofKind (by decide)]
    rfl
  | some target =>
    rw [process_resolved hres]
    cases removeTypes with
    | false => simpa using v.journal_rewrittenEvents target
    | true => simpa [removeProxy_ofKind] using v.journal_rewrittenEvents target

end Visit

/-! ## The events of a run -/

/-- What a run takes out was there, and nothing is taken out twice. -/
theorem removedAll_visits (resolver : Resolver) (removeTypes : Bool) (ts : List Token)
    (m : Module) :
    (removedAll resolver removeTypes (visits resolver removeTypes ts m)).Nodup ∧
      removedAll resolver removeTypes (visits resolver removeTypes ts m) ⊆
        m.types.map TypeDef.token := by
  induction ts, m using run_induction resolver removeTypes with
  | done m => exact ⟨.nil, List.nil_subset _⟩
  | pass t rest m h ih =>
    rw [visits_pass h]
    exact ih
  | meet t rest m proxy h ih =>
    obtain ⟨hnodup, hsub⟩ := ih
    rw [visits_meet h]
    generalize visits resolver removeTypes rest _ = later at hnodup hsub
    let v : Visit := ⟨m, proxy⟩
    have hfirst : (v.removed resolver removeTypes).Nodup := by
      unfold Visit.removed
      split
      · exact Module.typeAndNested_nodup _ _
      · exact .nil
    have hdeclared : v.removed resolver removeTypes ⊆ m.types.map TypeDef.token := by
      intro u hu
      obtain ⟨htoken, ty, hty, -, rfl, -⟩ := found?_eq_some h
      rcases Relation.reflTransGen_iff_eq_or_transGen.1
        (Module.reaches_of_mem_typeAndNested (Visit.mem_removed hu)) with hself | hnested
      · exact List.mem_map.2 ⟨ty, hty, htoken.symm.trans hself⟩
      · obtain ⟨_, hstep, -⟩ := Relation.TransGen.head'_iff.1 hnested
        exact Module.mem_tokens_of_nestedIn hstep
    -- what goes later is still there after the first has gone
    have hlater : ∀ u ∈ removedAll resolver removeTypes later,
        u ∈ m.types.map TypeDef.token ∧ u ∉ v.removed resolver removeTypes := fun u hu =>
      Module.mem_tokens_reduce.1 (hsub hu)
    constructor
    · refine List.nodup_append.2 ⟨hfirst, hnodup, ?_⟩
      rintro u hu _ hu' rfl
      exact (hlater u hu').2 hu
    · exact List.append_subset.2 ⟨hdeclared, fun u hu => (hlater u hu).1⟩

/-- What two disjoint choices count apart, their union counts together. -/
theorem countP_add {p q r : α → Bool} (h : ∀ a, (r a).toNat = (p a).toNat + (q a).toNat)
    (l : List α) : l.countP r = l.countP p + l.countP q := by
  induction l with
  | nil => rfl
  | cons a rest ih =>
    have ha := h a
    simp only [List.countP_cons, ih]
    cases hp : p a <;> cases hq : q a <;> cases hr : r a <;> simp_all <;> omega

/-- An instruction is changed once, by the first proxy that takes it for a call of its entry. -/
theorem redirectAll_cons_ne {vs : List Visit} (hentries : ∀ v ∈ vs, v.proxy.entry.isMethodDef)
    {v : Visit} (hentry : v.proxy.entry.isMethodDef) (i : Instruction) :
    (decide (redirectAll resolver (v :: vs) i ≠ i)).toNat =
      ((v.resolved? resolver).isSome && i.calls v.proxy.entry).toNat +
        (decide (redirectAll resolver vs (v.redirect resolver i) ≠ v.redirect resolver i)).toNat := by
  have hcons : redirectAll resolver (v :: vs) i =
      redirectAll resolver vs (v.redirect resolver i) := rfl
  rcases v.redirect_cases resolver i with ⟨hstay, hno⟩ | ⟨target, hres, hcall, hdirect⟩
  · have hnone : ((v.resolved? resolver).isSome && i.calls v.proxy.entry) = false := by
      simpa using hno
    rw [hcons, hstay, hnone]
    simp
  · have hnew : v.directCall target ≠ i := by
      rintro rfl
      exact Visit.not_calls_directCall hres hentry hcall
    rw [hcons, hdirect, redirectAll_directCall hentries hres]
    simp [hres, hcall, hnew]

/-- In a method that is left, the sites are the instructions that have changed. -/
theorem count_sites {ts : List Token} {m : Module}
    (hmethods : (m.methods.map MethodDef.token).Nodup)
    (htable : ∀ d ∈ m.methods, d.token.isMethodDef) {d : MethodDef} (hd : d ∈ m.methods)
    (hleft : d.token ∈ (processAll resolver removeTypes ts m).module.methods.map MethodDef.token) :
    ((visits resolver removeTypes ts m).flatMap (Visit.sites resolver)).count d.token =
      d.code.toList.countP fun i =>
        redirectAll resolver (visits resolver removeTypes ts m) i ≠ i := by
  induction ts, m using run_induction resolver removeTypes generalizing d with
  | done m => simp [visits, redirectAll]
  | pass t rest m h ih =>
    rw [(processAll_pass h rest).1] at hleft
    rw [visits_pass h]
    exact ih hmethods htable hd hleft
  | meet t rest m proxy h ih =>
    rw [(processAll_meet h rest).1] at hleft
    let v : Visit := ⟨m, proxy⟩
    let next := v.after resolver removeTypes
    have hnextMethods : (next.methods.map MethodDef.token).Nodup :=
      hmethods.sublist (v.reduces_after resolver removeTypes).methods_sublist
    have hnextTable : ∀ e ∈ next.methods, e.token.isMethodDef := by
      intro e he
      obtain ⟨e₀, he₀, rfl⟩ := Module.mem_methods_reduce he
      exact htable e₀ he₀
    have hnext : d.mapCode (v.redirect resolver) ∈ next.methods := by
      obtain ⟨e, he, htoken⟩ := List.mem_map.1
        ((processAll_reduces resolver removeTypes rest next).methods_sublist.subset hleft)
      obtain ⟨e₀, he₀, rfl⟩ := Module.mem_methods_reduce he
      obtain rfl : e₀ = d := List.inj_on_of_nodup_map hmethods he₀ hd htoken
      exact he
    have hlater := ih hnextMethods hnextTable hnext hleft
    have hentries : ∀ w ∈ visits resolver removeTypes rest next, w.proxy.entry.isMethodDef :=
      fun w hw => met_entry_isMethodDef hnextTable hw
    have hentry : v.proxy.entry.isMethodDef := by
      obtain ⟨-, ty, hty, -, -, hdetect⟩ := found?_eq_some h
      obtain ⟨e, he, htoken⟩ := List.mem_map.1 (ProxyType.entry_of_detect hdetect)
      exact htoken ▸ htable e (List.mem_flatMap.2 ⟨ty, hty, he⟩)
    have hfirst : (v.sites resolver).count d.token = d.code.toList.countP fun i =>
        (v.resolved? resolver).isSome && i.calls v.proxy.entry := by
      unfold Visit.sites
      cases (v.resolved? resolver).isSome with
      | false => simp
      | true => simpa using count_callSites hmethods hd
    rw [visits_meet h, List.flatMap_cons, List.count_append, hfirst]
    rw [MethodDef.mapCode_token, MethodDef.mapCode_code, Array.toList_map, List.countP_map]
      at hlater
    rw [hlater]
    exact (countP_add (redirectAll_cons_ne hentries hentry) _).symm

/-- The types reported as taken out are those taken out, proxy by proxy. -/
theorem pass_removedEvents {σ : Type} (resolver : Resolver) (removeTypes : Bool) (m : Module)
    (s : σ) :
    (((pass resolver removeTypes).run m s).journal.events.ofKind .proxyTypeRemoved).map
        Event.token =
      (removedAll resolver removeTypes (met resolver removeTypes m)).map some := by
  rw [pass_eventTokens, removedAll, List.map_flatMap]
  refine List.flatMap_congr fun v hv => v.removedEvents resolver removeTypes ?_
  obtain ⟨-, -, ty, hty, hdetect⟩ := mem_visits hv
  exact List.find?_isSome.2 ⟨ty, hty, by simp [ProxyType.typeToken_of_detect hdetect]⟩

/-- The calls reported are those redirected, proxy by proxy. -/
theorem pass_rewrittenEvents {σ : Type} (resolver : Resolver) (removeTypes : Bool) (m : Module)
    (s : σ) :
    (((pass resolver removeTypes).run m s).journal.events.ofKind .callSiteRewritten).map
        Event.token =
      ((met resolver removeTypes m).flatMap (Visit.sites resolver)).map some := by
  rw [pass_eventTokens, List.map_flatMap]
  exact List.flatMap_congr fun v _ => v.rewrittenEvents resolver removeTypes

/-- What the events of a run say about the types and methods of the module. -/
structure Reported (before after : Module) (events : EventLog) : Prop where
  /-- No type is reported as taken out twice. -/
  removed_nodup : ((events.ofKind .proxyTypeRemoved).map Event.token).Nodup
  /-- The types reported as taken out are those missing. -/
  removed : ∀ t, t ∈ (events.ofKind .proxyTypeRemoved).map Event.token ↔
    ∃ ty ∈ before.types, ty.token ∉ after.types.map TypeDef.token ∧ t = some ty.token
  /-- A method that is left has as many calls reported as slots changed. -/
  rewritten : ∀ d' ∈ after.methods, ∃ d ∈ before.methods, d.token = d'.token ∧
    (events.ofKind .callSiteRewritten).countP (fun e => e.token = some d'.token) =
      slotsChanged d.code d'.code
  /-- No proxy is reported as resolved twice. -/
  resolved_nodup : ((events.ofKind .proxyResolved).map Event.token).Nodup

/-- The events of a run report what it did. -/
theorem pass_reported {σ : Type} (resolver : Resolver) (removeTypes : Bool) {m : Module}
    (htypes : (m.types.map TypeDef.token).Nodup) (hmethods : (m.methods.map MethodDef.token).Nodup)
    (htable : ∀ d ∈ m.methods, d.token.isMethodDef) (s : σ) :
    let done := (pass resolver removeTypes).run m s
    Reported m done.module done.journal.events := by
  intro done
  obtain ⟨hnodup, hsub⟩ := removedAll_visits resolver removeTypes (candidates m) m
  have hremoved := pass_removedEvents resolver removeTypes m s
  have hmodule : done.module = run resolver removeTypes m := rfl
  refine ⟨?removed_nodup, ?removed, ?rewritten, ?resolved_nodup⟩
  case removed_nodup =>
    rw [hremoved]
    exact hnodup.map fun _ _ h => Option.some.inj h
  case removed =>
    intro t
    rw [hremoved, hmodule, run_eq]
    constructor
    · intro ht
      obtain ⟨u, hu, rfl⟩ := List.mem_map.1 ht
      obtain ⟨ty, hty, rfl⟩ := List.mem_map.1 (hsub hu)
      exact ⟨ty, hty, fun hkept => (Module.mem_tokens_reduce.1 hkept).2 hu, rfl⟩
    · rintro ⟨ty, hty, hgone, rfl⟩
      refine List.mem_map_of_mem ?_
      by_contra hkept
      exact hgone (Module.mem_tokens_reduce.2 ⟨List.mem_map_of_mem hty, hkept⟩)
  case rewritten =>
    intro d' hd'
    obtain ⟨d, hd, rfl⟩ := mem_methods_run hd'
    refine ⟨d, hd, rfl, ?_⟩
    have hsites := @count_sites resolver removeTypes (candidates m) m hmethods htable d hd
      (List.mem_map.2 ⟨_, hd', rfl⟩)
    calc (done.journal.events.ofKind .callSiteRewritten).countP (fun e => e.token = some d.token)
        = ((done.journal.events.ofKind .callSiteRewritten).map Event.token).countP
            (fun t => t = some d.token) := by
          rw [List.countP_map]
          rfl
      _ = ((met resolver removeTypes m).flatMap (Visit.sites resolver)).count d.token := by
          rw [pass_rewrittenEvents, List.countP_map]
          simp [List.count, Function.comp_def, BEq.beq]
      _ = slotsChanged d.code
            (d.mapCode (redirectAll resolver (met resolver removeTypes m))).code := by
          rw [MethodDef.mapCode_code, slotsChanged_map]
          exact hsites
  case resolved_nodup =>
    have hproxies : ((replaced resolver removeTypes m).map fun v => v.proxy.typeToken).Nodup :=
      ((candidates_nodup htypes).sublist (visits_sublist resolver removeTypes _ m)).sublist
        (List.filter_sublist.map _)
    rw [pass_resolvedEvents]
    simpa [Function.comp_def] using hproxies.map fun _ _ h => Option.some.inj h

/-- Two proxies and what is nested in them: a proxy in `Outer`, of which nothing is used, and a type
in `Kept`, a method of which the program calls. -/
def keptProxy : Module :=
  sampleModule
    [sampleProxy ⟨0x02000001⟩ "Outer" none 0x06000001 #[],
     sampleProxy ⟨0x02000002⟩ "Inner" (some ⟨0x02000001⟩) 0x06000011 #[.call ⟨0x06000003⟩],
     sampleProxy ⟨0x02000003⟩ "Kept" none 0x06000021 #[],
     { token := ⟨0x02000004⟩, name := "Used", enclosing := some ⟨0x02000003⟩
       methods := [⟨⟨0x06000031⟩, "Use", 0x10, ⟨false, .void, []⟩, none⟩] },
     sampleProgram [⟨0x06000003⟩, ⟨0x06000013⟩, ⟨0x06000003⟩, ⟨0x06000023⟩, ⟨0x06000031⟩]]

/-- All three proxies are resolved and the four calls of them in `Main` reported; `Kept` is not
reported as taken out. -/
theorem keptProxy_reported :
    (keptProxy.types.map TypeDef.token).Nodup ∧ (keptProxy.methods.map MethodDef.token).Nodup ∧
    (∀ d ∈ keptProxy.methods, d.token.isMethodDef) ∧
    let done := (pass (resolveWith []) true).run keptProxy ()
    Reported keptProxy done.module done.journal.events ∧
      (done.journal.events.ofKind .proxyTypeRemoved).map Event.token =
        [some ⟨0x02000002⟩, some ⟨0x02000001⟩] ∧
      done.journal.events.countP (fun e =>
        e.kind = .callSiteRewritten ∧ e.token = some ⟨0x06000091⟩) = 4 ∧
      (done.journal.events.ofKind .proxyResolved).length = 3 := by
  have htypes : (keptProxy.types.map TypeDef.token).Nodup := by decide
  have hmethods : (keptProxy.methods.map MethodDef.token).Nodup := by decide
  have htable : ∀ d ∈ keptProxy.methods, d.token.isMethodDef := by decide
  refine ⟨htypes, hmethods, htable, pass_reported (resolveWith []) true htypes hmethods htable (),
    ?_⟩
  decide +kernel

end Proxy

end Unmask
