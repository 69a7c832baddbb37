import Unmask.Proofs.Proxy.Idle
import Unmask.Proofs.Proxy.Stack
import Unmask.Proofs.Proxy.Targets
import Unmask.Proofs.Proxy.Turns

/-!
# Running the pass again

A second run meets the proxies that the first one left. Those that the first run left alone are left
alone again, and of those that it replaced no call is left. So there are two things for the second
run to do: to handle a type that took the shape of a proxy only after its turn, and to take out a
proxy that was kept for a use that has gone since.
-/

namespace Unmask

open ProxyType

/-! ## The shape of a proxy under redirection -/

/-- The target is the second constant. -/
theorem ProxyType.second_of_signatureTarget? {code : Array Instruction} {t : Token}
    (h : signatureTarget? code = some t) :
    ∃ c, code[1]?.bind Instruction.constant? = some c ∧ t = ⟨c.toUInt32⟩ := by
  unfold signatureTarget? at h
  split at h
  · rename_i _ c _ _ _ hc _ _
    split at h
    · exact ⟨c, hc, (Option.some.inj h).symm⟩
    · cases h
  · cases h

/-- The map changes instructions into nothing but direct calls of references. -/
def Redirects (f : Instruction → Instruction) : Prop :=
  ∀ i, f i = i ∨ ∃ op ∈ [OpCode.call, .callvirt, .newobj], ∃ t : Token, t.isMemberRef ∧
    f i = ⟨op, .method t⟩

namespace Redirects

variable {f : Instruction → Instruction}

theorem constant?_eq (h : Redirects f) {i : Instruction} {c : Int32}
    (hc : (f i).constant? = some c) : i.constant? = some c := by
  rcases h i with hsame | ⟨op, hop, t, -, hdirect⟩
  · rwa [hsame] at hc
  · rw [hdirect, Instruction.constant?_directCall hop] at hc
    cases hc

theorem constantAt_eq (h : Redirects f) {code : Array Instruction} {k : Nat} {c : Int32}
    (hc : (code.map f)[k]?.bind Instruction.constant? = some c) :
    code[k]?.bind Instruction.constant? = some c := by
  obtain ⟨i', hi', hc'⟩ := Option.bind_eq_some_iff.1 hc
  rw [Array.getElem?_map] at hi'
  obtain ⟨i, hi, rfl⟩ := Option.map_eq_some_iff.1 hi'
  rw [hi]
  exact h.constant?_eq hc'

/-- The constants that are left are the ones that were there. -/
theorem signatureTarget?_eq (h : Redirects f) {code : Array Instruction} {t u : Token}
    (ht : signatureTarget? code = some t) (hu : signatureTarget? (code.map f) = some u) :
    u = t := by
  obtain ⟨c, hc, rfl⟩ := second_of_signatureTarget? ht
  obtain ⟨c', hc', rfl⟩ := second_of_signatureTarget? hu
  rw [h.constantAt_eq hc', Option.some.injEq] at hc
  rw [hc]

/-- A direct call calls no definition. -/
theorem eq_of_method? (h : Redirects f) {i : Instruction} {t : Token} (htable : t.isMethodDef)
    (ht : (f i).method? = some t) : f i = i := by
  rcases h i with hsame | ⟨op, -, r, href, hdirect⟩
  · exact hsame
  · rw [hdirect] at ht
    obtain rfl : r = t := Option.some.inj ht
    exact absurd htable (Token.not_isMethodDef href)

/-- A method that calls `Invoke` when it has been redirected called it before. -/
theorem callersOf_sublist (h : Redirects f) (ty : TypeDef) {invoke : Token}
    (hinvoke : invoke.isMethodDef) :
    ((callersOf (ty.mapCode f) invoke).map MethodDef.token).Sublist
      ((callersOf ty invoke).map MethodDef.token) := by
  unfold ProxyType.callersOf
  rw [TypeDef.mapCode_methods, List.filter_map, List.map_map]
  refine List.Sublist.map MethodDef.token (List.monotone_filter_right ty.methods fun d hd => ?_)
  simp only [Function.comp_apply, MethodDef.mapCode_token, MethodDef.mapCode_code,
    Bool.and_eq_true, Array.any_eq_true', Array.mem_map, decide_eq_true_eq] at hd ⊢
  obtain ⟨hother, _, ⟨i, hi, rfl⟩, hop, hmethod⟩ := hd
  rw [h.eq_of_method? hinvoke hmethod] at hop hmethod
  exact ⟨of_decide_eq_true hother, i, hi, hop, hmethod⟩

/-- A type that is a proxy before and after redirection is the same proxy. -/
theorem detect_eq (h : Redirects f) {ty : TypeDef} (htable : ∀ d ∈ ty.methods, d.token.isMethodDef)
    {proxy proxy' : ProxyType} (hbefore : (detect ty).1 = some proxy)
    (hafter : (detect (ty.mapCode f)).1 = some proxy') : proxy' = proxy := by
  obtain ⟨cctor, t, invoke, entry, hcctor, ht, hinvoke, hentry, rfl⟩ := detect_eq_some hbefore
  obtain ⟨cctor', t', invoke', entry', hcctor', ht', hinvoke', hentry', rfl⟩ :=
    detect_eq_some hafter
  obtain rfl : cctor.mapCode f = cctor' := by simpa [hcctor] using hcctor'
  obtain rfl : invoke.mapCode f = invoke' := by simpa [hinvoke] using hinvoke'
  have htarget : t' = t := h.signatureTarget?_eq ht (by rwa [MethodDef.mapCode_code] at ht')
  have hcallers := h.callersOf_sublist ty (htable invoke (List.mem_of_find?_eq_some hinvoke))
  rw [hentry] at hcallers
  rw [MethodDef.mapCode_token] at hentry'
  rw [hentry'] at hcallers
  have hsame : entry'.token = entry.token := by simpa using hcallers
  rw [htarget, hsame]
  rfl

end Redirects

namespace Proxy

theorem redirects_redirectAll (resolver : Resolver) (vs : List Visit) :
    Redirects (redirectAll resolver vs) := by
  intro i
  by_cases h : redirected resolver vs i
  · obtain ⟨v, -, target, hres, hdirect⟩ := redirectAll_of_redirected h
    exact .inr ⟨_, callKind_mem target, _, Visit.target_isMemberRef hres, hdirect⟩
  · exact .inl (redirectAll_of_not_redirected h)

/-- A proxy that was met and is left is the same proxy, if it still is one. -/
theorem Visit.proxy_eq_of_detect {resolver : Resolver} {removeTypes : Bool} {m : Module}
    (htypes : (m.types.map TypeDef.token).Nodup) (htable : ∀ d ∈ m.methods, d.token.isMethodDef)
    {v : Visit} (hv : v ∈ met resolver removeTypes m) {ty : TypeDef}
    (hty : ty ∈ (run resolver removeTypes m).types) {proxy : ProxyType}
    (hdetect : (ProxyType.detect ty).1 = some proxy)
    (htoken : proxy.typeToken = v.proxy.typeToken) : proxy = v.proxy := by
  obtain ⟨hreduces, -, own, hown, hmet⟩ := mem_visits hv
  obtain ⟨-, later, -, -, hend⟩ := visits_split hv
  rw [run, hend] at hty
  obtain ⟨ty₀, hty₀, -, rfl⟩ := Module.mem_types_reduce.1 hty
  have hsame : ty₀.token = own.token := by
    rw [ProxyType.typeToken_of_detect hdetect, ProxyType.typeToken_of_detect hmet] at htoken
    exact htoken
  obtain rfl : ty₀ = own :=
    List.inj_on_of_nodup_map (htypes.sublist hreduces.types_sublist) hty₀ hown hsame
  refine (redirects_redirectAll resolver (v :: later)).detect_eq ?_ hmet hdetect
  intro d hd
  obtain ⟨f, ty₁, hty₁, rfl⟩ := hreduces.exists_type hty₀
  obtain ⟨e, he, rfl⟩ := List.mem_map.1 hd
  exact htable e (List.mem_flatMap.2 ⟨ty₁, hty₁, he⟩)

/-! ## Proxies left alone -/

variable {references : List Module} {removeTypes : Bool} {m : Module}

/-- The comparison of effects looks at the signatures and at whether an object is made. -/
theorem stackMismatch?_congr {m m' : Module} {proxy : ProxyType} {target target' : ResolvedMethod}
    (hentry : m'.methodSignature? proxy.entry = m.methodSignature? proxy.entry)
    (htarget : m'.methodSignature? proxy.target = m.methodSignature? proxy.target)
    (hkind : target'.isConstructor = target.isConstructor) :
    stackMismatch? m' proxy target' = stackMismatch? m proxy target := by
  have hnew : target'.callKind = .newobj ↔ target.callKind = .newobj := by
    rw [callKind_eq_newobj_iff, callKind_eq_newobj_iff, hkind]
  have hbefore : m'.callEffect? (.call proxy.entry) = m.callEffect? (.call proxy.entry) :=
    Module.callEffect?_congr hentry (by decide) (by decide) .rfl
  have hafter := Module.callEffect?_congr htarget (callKind_mem target') (callKind_mem target) hnew
  rw [stackMismatch?, stackMismatch?, hbefore, hafter]

/-- A proxy that can be replaced after a reduction which leaves its entry could be replaced
before. -/
theorem Visit.isSome_resolved? {v : Visit} {m' : Module} (h : v.module.Reduces m')
    (hmethods : (v.module.methods.map MethodDef.token).Nodup) {d : MethodDef}
    (hd : d ∈ v.module.methods) {f : Instruction → Instruction}
    (hd' : d.mapCode f ∈ m'.methods) (hentry : d.token = v.proxy.entry)
    (htable : d.token.isMethodDef)
    (hsome : (Visit.resolved? (resolveWith references) ⟨m', v.proxy⟩).isSome) :
    (v.resolved? (resolveWith references)).isSome := by
  obtain ⟨target', htarget'⟩ := Option.isSome_iff_exists.1 hsome
  obtain ⟨member, hmember, hfound'⟩ := Visit.resolved?_eq_some htarget'
  have hmismatch' := (Option.filter_eq_some_iff.1 htarget').2
  obtain ⟨target, hfound⟩ :=
    Option.isSome_iff_exists.1 (h.isSome_resolveWith (Option.isSome_of_eq_some hfound'))
  have hkind : target'.isConstructor = target.isConstructor := by
    rw [Module.resolveWith_isConstructor hfound', Module.resolveWith_isConstructor hfound]
  have hsignature : m'.methodSignature? v.proxy.entry =
      v.module.methodSignature? v.proxy.entry := by
    rw [← hentry, Module.methodSignature?_of_mem hmethods hd htable]
    exact Module.methodSignature?_of_mem (hmethods.sublist h.methods_sublist)
      (d := d.mapCode f) hd' htable
  have href : v.proxy.target.isMemberRef := Visit.target_isMemberRef (v := ⟨m', v.proxy⟩) htarget'
  have htarget : m'.methodSignature? v.proxy.target = v.module.methodSignature? v.proxy.target :=
    h.methodSignature? (Token.not_isMethodDef href)
  rw [stackMismatch?_congr hsignature htarget hkind] at hmismatch'
  rw [h.memberRef?] at hmember
  refine Option.isSome_of_eq_some (y := target) (Option.filter_eq_some_iff.2 ⟨?_, hmismatch'⟩)
  rw [hmember]
  exact hfound

/-- A proxy that was left alone and is left can still not be replaced. -/
theorem Visit.resolved?_run_eq_none (htypes : (m.types.map TypeDef.token).Nodup)
    (hmethods : (m.methods.map MethodDef.token).Nodup)
    (htable : ∀ d ∈ m.methods, d.token.isMethodDef) {v : Visit}
    (hv : v ∈ met (resolveWith references) removeTypes m)
    (hnone : v.resolved? (resolveWith references) = none) {ty : TypeDef}
    (hty : ty ∈ (run (resolveWith references) removeTypes m).types)
    (htoken : ty.token = v.proxy.typeToken) :
    Visit.resolved? (resolveWith references)
      ⟨run (resolveWith references) removeTypes m, v.proxy⟩ = none := by
  obtain ⟨hbefore, hafter, own, hown, hmet⟩ := mem_visits hv
  obtain ⟨d, hd, hentry⟩ := List.mem_map.1 (ProxyType.entry_of_detect hmet)
  have hleft : own.token ∈
      (run (resolveWith references) removeTypes m).types.map TypeDef.token := by
    rw [← ProxyType.typeToken_of_detect hmet, ← htoken]
    exact List.mem_map_of_mem hty
  obtain ⟨f, hown'⟩ := hafter.exists_mapCode (htypes.sublist hbefore.types_sublist) hown hleft
  by_contra hsome
  have hresolved := Visit.isSome_resolved? hafter (hmethods.sublist hbefore.methods_sublist)
    (List.mem_flatMap.2 ⟨own, hown, hd⟩)
    (List.mem_flatMap.2 ⟨own.mapCode f, hown', List.mem_map_of_mem hd⟩) hentry
    (hentry ▸ met_entry_isMethodDef htable hv) (Option.isSome_iff_ne_none.2 hsome)
  simp [hnone] at hresolved

/-- The proxies that a run has met are idle at its end, but for those that it replaced and kept for
a use that is there no more. -/
theorem Visit.idle_run (htypes : (m.types.map TypeDef.token).Nodup)
    (hmethods : (m.methods.map MethodDef.token).Nodup)
    (htable : ∀ d ∈ m.methods, d.token.isMethodDef) {v : Visit}
    (hv : v ∈ met (resolveWith references) removeTypes m) {ty : TypeDef}
    (hty : ty ∈ (run (resolveWith references) removeTypes m).types)
    (htoken : ty.token = v.proxy.typeToken)
    (hused : removeTypes → v ∈ replaced (resolveWith references) removeTypes m →
      (Visit.resolved? (resolveWith references)
        ⟨run (resolveWith references) removeTypes m, v.proxy⟩).isSome →
      (outsideReference? (run (resolveWith references) removeTypes m) v.proxy.typeToken).isSome) :
    Visit.Idle (resolveWith references) removeTypes
      ⟨run (resolveWith references) removeTypes m, v.proxy⟩ := by
  intro hagain
  have hresolved : (v.resolved? (resolveWith references)).isSome := by
    rw [Option.isSome_iff_ne_none]
    intro hnone
    simp [Visit.resolved?_run_eq_none htypes hmethods htable hv hnone hty htoken] at hagain
  have hreplaced : v ∈ replaced (resolveWith references) removeTypes m :=
    List.mem_filter.2 ⟨hv, hresolved⟩
  refine ⟨fun i hi => ?_, fun hremove => hused hremove hreplaced hagain⟩
  obtain ⟨d, hd, hcode⟩ := Module.mem_slots.1 hi
  exact not_calls_replaced htable hreplaced hd hcode

/-! ## The second run -/

/-- The proxies among the types of a module. -/
def proxies (m : Module) : List ProxyType :=
  m.types.filterMap fun ty => (ProxyType.detect ty).1

/-- The proxies that a run leaves and has not met: types that took the shape after their turn. -/
def late (resolver : Resolver) (removeTypes : Bool) (m : Module) : List ProxyType :=
  (proxies (run resolver removeTypes m)).filter fun p =>
    ∀ v ∈ met resolver removeTypes m, v.proxy.typeToken ≠ p.typeToken

/-- The proxies that a run has replaced and kept. -/
def kept (resolver : Resolver) (removeTypes : Bool) (m : Module) : List ProxyType :=
  (proxies (run resolver removeTypes m)).filter fun p =>
    ∃ v ∈ replaced resolver removeTypes m, v.proxy = p

/-- The pass leaves a module as it is and reports no change exactly if its proxies are idle. -/
theorem pass_unchanged_iff {σ : Type} (resolver : Resolver) (removeTypes : Bool) (s : σ)
    (htypes : (m.types.map TypeDef.token).Nodup) :
    (((pass resolver removeTypes).run m s).module = m ∧
        ((pass resolver removeTypes).run m s).changed = .ok false) ↔
      ∀ p ∈ proxies m, Visit.Idle resolver removeTypes ⟨m, p⟩ := by
  refine (processAll_unchanged_iff resolver removeTypes (candidates m) m).trans ?_
  constructor
  · intro h p hp
    obtain ⟨ty, hty, hdetect⟩ := List.mem_filterMap.1 hp
    refine h ty.token (mem_candidates.2 ⟨ty, hty, ProxyType.isDelegate_of_detect hdetect, rfl⟩) p ?_
    rw [found?, Module.typeDef?_of_mem htypes hty]
    exact hdetect
  · intro h t _ p hp
    obtain ⟨-, ty, hty, -, -, hdetect⟩ := found?_eq_some hp
    exact h p (List.mem_filterMap.2 ⟨ty, hty, hdetect⟩)

/-- Running the pass again leaves the module as it is and reports no change exactly if the types
that took the shape of a proxy late are idle and, where types are to be taken out, every replaced
proxy that was kept, and whose target still resolves, is still in use. -/
theorem again_unchanged_iff {σ : Type} (references : List Module) (removeTypes : Bool) (s s' : σ)
    (htypes : (m.types.map TypeDef.token).Nodup) (hmethods : (m.methods.map MethodDef.token).Nodup)
    (htable : ∀ d ∈ m.methods, d.token.isMethodDef) {once : Module}
    (honce : once = ((pass (resolveWith references) removeTypes).run m s).module) :
    (((pass (resolveWith references) removeTypes).run once s').module = once ∧
        ((pass (resolveWith references) removeTypes).run once s').changed = .ok false) ↔
      (∀ p ∈ late (resolveWith references) removeTypes m,
        Visit.Idle (resolveWith references) removeTypes ⟨once, p⟩) ∧
      (removeTypes → ∀ p ∈ kept (resolveWith references) removeTypes m,
        (Visit.resolved? (resolveWith references) ⟨once, p⟩).isSome →
          (outsideReference? once p.typeToken).isSome) := by
  replace honce : once = run (resolveWith references) removeTypes m := honce
  have hreduces : m.Reduces once := by
    rw [honce]
    exact processAll_reduces _ _ _ _
  rw [pass_unchanged_iff _ _ _ (htypes.sublist hreduces.types_sublist)]
  subst honce
  constructor
  · intro h
    refine ⟨fun p hp => h p (List.mem_filter.1 hp).1, fun hremove p hp hres => ?_⟩
    exact (h p (List.mem_filter.1 hp).1 hres).2 hremove
  · rintro ⟨hlate, hkept⟩ p hp hres
    by_cases hmet : ∀ v ∈ met (resolveWith references) removeTypes m,
        v.proxy.typeToken ≠ p.typeToken
    · exact hlate p (List.mem_filter.2 ⟨hp, by simpa using hmet⟩) hres
    · simp only [not_forall, not_not] at hmet
      obtain ⟨v, hv, htoken⟩ := hmet
      obtain ⟨ty, hty, hdetect⟩ := List.mem_filterMap.1 hp
      obtain rfl : p = v.proxy := Visit.proxy_eq_of_detect htypes htable hv hty hdetect htoken.symm
      refine Visit.idle_run htypes hmethods htable hv hty
        (ProxyType.typeToken_of_detect hdetect).symm (fun hremove hreplaced => ?_) hres
      exact hkept hremove v.proxy (List.mem_filter.2 ⟨hp, by simpa using ⟨v, hreplaced, rfl⟩⟩)

/-! ## Uses that go, and shapes that come -/

/-- Two proxies, with a type nested in the first, and a program. The second proxy does `work`. -/
def relayModule (work : Array Instruction) (callees : List Token) : Module :=
  sampleModule
    [sampleProxy ⟨0x02000001⟩ "Gateway" none 0x06000001 #[],
     { token := ⟨0x02000002⟩
       name := "Worker"
       enclosing := some ⟨0x02000001⟩
       methods := [⟨⟨0x06000004⟩, "Prepare", 0x10, ⟨false, .void, []⟩, none⟩] },
     sampleProxy ⟨0x02000003⟩ "Relay" none 0x06000005 work,
     sampleProgram callees]

/-- A delegate type that starts by calling the entry of a proxy virtually. -/
def lateModule : Module :=
  sampleModule
    [sampleProxy ⟨0x02000001⟩ "Guard" none 0x06000001 #[] ⟨.callvirt, .method ⟨0x06000007⟩⟩,
     sampleProxy ⟨0x02000003⟩ "Relay" none 0x06000005 #[],
     sampleProgram [⟨0x06000007⟩]]

/-- While the program uses the nested type, a second run does nothing. -/
theorem again_unchanged_used :
    let m := relayModule #[] [⟨0x06000003⟩, ⟨0x06000007⟩, ⟨0x06000004⟩]
    let once := ((pass (resolveWith []) true).run m ()).module
    ⟨⟨0x02000001⟩, ⟨0x06000003⟩, ⟨0x0A000001⟩⟩ ∈ kept (resolveWith []) true m ∧
      ((pass (resolveWith []) true).run once ()).module = once ∧
      ((pass (resolveWith []) true).run once ()).changed = .ok false := by
  intro m once
  refine ⟨by decide +kernel, ?_⟩
  refine (again_unchanged_iff [] true () () (m := m) (by decide) (by decide) (by decide) rfl).2 ?_
  decide +kernel

/-- The module has distinct tokens and no type nested in itself, and yet what a run leaves of it is
changed by another run. -/
structure ChangedAgain (m : Module) : Prop where
  types : (m.types.map TypeDef.token).Nodup
  methods : (m.methods.map MethodDef.token).Nodup
  table : ∀ d ∈ m.methods, d.token.isMethodDef
  acyclic : m.Acyclic
  changed :
    let once := ((pass (resolveWith []) true).run m ()).module
    let twice := (pass (resolveWith []) true).run once ()
    twice.module ≠ once ∧ twice.changed = .ok true

/-- A second run takes out a proxy that only another proxy kept, and it handles a type that became a
proxy when its initializer was redirected. -/
theorem changedAgain_relay_late :
    ChangedAgain (relayModule #[.call ⟨0x06000004⟩] [⟨0x06000003⟩, ⟨0x06000007⟩]) ∧
      ChangedAgain lateModule := by
  constructor
  · exact ⟨by decide, by decide, by decide,
      Module.acyclic_of_rank (fun t => t.val.toNat) (by decide), by decide +kernel⟩
  · exact ⟨by decide, by decide, by decide,
      Module.acyclic_of_rank (fun t => t.val.toNat) (by decide), by decide +kernel⟩

end Proxy

end Unmask
