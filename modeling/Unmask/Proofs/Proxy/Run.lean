import Unmask.Proofs.Module.Reduce
import Unmask.Proofs.Module.Replace
import Unmask.Proxy.Pass

/-!
# Runs of the proxy pass

A run meets proxies one after the other, each in the module as it then is. A proxy is left alone, or
the calls of its entry are redirected and its nesting tree is taken out. So each step is a reduction
of the module, and so is the whole run: `processAll_spec`.
-/

namespace Unmask

/-- The shape of a type that is found to be a proxy. -/
theorem ProxyType.detect_eq_some {ty : TypeDef} {proxy : ProxyType}
    (h : (detect ty).1 = some proxy) :
    ∃ cctor target invoke entry, ty.staticConstructor? = some cctor ∧
      signatureTarget? cctor.code = some target ∧ ty.methodNamed? "Invoke" = some invoke ∧
      callersOf ty invoke.token = [entry] ∧ proxy = ⟨ty.token, entry.token, target⟩ := by
  unfold detect at h
  split at h
  · cases h
  split at h
  · cases h
  rename_i cctor hcctor
  split at h
  · cases h
  split at h
  · cases h
  rename_i target htarget
  split at h
  · cases h
  rename_i invoke hinvoke
  split at h
  · cases h
  · rename_i entry hentry
    exact ⟨cctor, target, invoke, entry, hcctor, htarget, hinvoke, hentry, (Option.some.inj h).symm⟩
  · cases h

theorem ProxyType.typeToken_of_detect {ty : TypeDef} {proxy : ProxyType}
    (h : (detect ty).1 = some proxy) : proxy.typeToken = ty.token := by
  obtain ⟨_, _, _, _, -, -, -, -, rfl⟩ := detect_eq_some h
  rfl

theorem ProxyType.isDelegate_of_detect {ty : TypeDef} {proxy : ProxyType}
    (h : (detect ty).1 = some proxy) : ty.isDelegate := by
  by_contra hplain
  simp [detect, Bool.eq_false_iff.2 hplain] at h

/-- The entry is a method of the type itself. -/
theorem ProxyType.entry_of_detect {ty : TypeDef} {proxy : ProxyType}
    (h : (detect ty).1 = some proxy) : proxy.entry ∈ ty.methods.map MethodDef.token := by
  obtain ⟨_, _, invoke, entry, -, -, -, hcallers, rfl⟩ := detect_eq_some h
  have hentry : entry ∈ callersOf ty invoke.token := by simp [hcallers]
  exact List.mem_map_of_mem (List.mem_filter.1 hentry).1

end Unmask

namespace Unmask.Proxy

/-- A proxy that a run meets, and the module in which it meets it. -/
structure Visit where
  module : Module
  proxy : ProxyType

namespace Visit

/-- The method that takes the place of the proxy, unless the proxy is left alone. -/
def resolved? (resolver : Resolver) (v : Visit) : Option ResolvedMethod :=
  ((v.module.memberRef? v.proxy.target).bind (resolver v.module)).filter fun target =>
    (stackMismatch? v.module v.proxy target).isNone

/-- The call that replaces the calls of the entry. -/
def directCall (v : Visit) (target : ResolvedMethod) : Instruction :=
  ⟨target.callKind, .method v.proxy.target⟩

/-- What becomes of an instruction. -/
def redirect (resolver : Resolver) (v : Visit) (i : Instruction) : Instruction :=
  match v.resolved? resolver with
  | none => i
  | some target => if i.calls v.proxy.entry then v.directCall target else i

theorem redirect_eq {resolver : Resolver} {v : Visit} {target : ResolvedMethod}
    (h : v.resolved? resolver = some target) :
    v.redirect resolver = fun i => if i.calls v.proxy.entry then v.directCall target else i := by
  funext i
  simp [redirect, h]

/-- The tokens of the types that are taken out. -/
def removed (resolver : Resolver) (removeTypes : Bool) (v : Visit) : List Token :=
  if removeTypes && (v.resolved? resolver).isSome &&
      (outsideReference? (v.module.mapCode (v.redirect resolver)) v.proxy.typeToken).isNone then
    v.module.typeAndNested v.proxy.typeToken
  else []

theorem removed_closed (resolver : Resolver) (removeTypes : Bool) (v : Visit) :
    Module.NestingClosed v.module.types (v.removed resolver removeTypes) := by
  unfold removed
  split
  · exact Module.typeAndNested_closed v.module v.proxy.typeToken
  · exact fun _ _ _ h => absurd h List.not_mem_nil

/-- The module after the proxy has been handled. -/
def after (resolver : Resolver) (removeTypes : Bool) (v : Visit) : Module :=
  v.module.reduce (v.redirect resolver) (v.removed resolver removeTypes)

theorem after_eq_self {resolver : Resolver} {v : Visit} (h : v.resolved? resolver = none)
    (removeTypes : Bool) : v.after resolver removeTypes = v.module := by
  have hid : v.redirect resolver = id := by
    funext i
    simp [redirect, h]
  simp [after, removed, h, hid, Module.reduce_id]

theorem reduces_after (resolver : Resolver) (removeTypes : Bool) (v : Visit) :
    v.module.Reduces (v.after resolver removeTypes) :=
  ⟨_, _, v.removed_closed resolver removeTypes, rfl⟩

end Visit

/-- The proxy that a candidate turns out to be. -/
def found? (m : Module) (t : Token) : Option ProxyType :=
  (m.typeDef? t).bind fun ty => (ProxyType.detect ty).1

/-- The proxies that a run over the candidates `ts` meets. -/
def visits (resolver : Resolver) (removeTypes : Bool) : List Token → Module → List Visit
  | [], _ => []
  | t :: rest, m =>
    match found? m t with
    | none => visits resolver removeTypes rest m
    | some proxy =>
      ⟨m, proxy⟩ :: visits resolver removeTypes rest (process resolver removeTypes m proxy).module

theorem redirect_module (m : Module) (proxy : ProxyType) (op : OpCode) :
    (redirect m proxy op).module =
      m.mapCode fun i => if i.calls proxy.entry then ⟨op, .method proxy.target⟩ else i := by
  apply replace_module_of_slots
  · exact fun _ _ _ _ => rfl
  · exact fun _ _ _ _ => rfl
  · intros
    rfl
  · intros
    rfl

theorem removeProxy_spec {m : Module} {proxy : ProxyType}
    (h : (m.typeDef? proxy.typeToken).isSome) (typeName : String) (rewritten : Bool) :
    (removeProxy m proxy typeName rewritten).module =
        m.reduce id (if (outsideReference? m proxy.typeToken).isNone then
          m.typeAndNested proxy.typeToken else []) ∧
      (removeProxy m proxy typeName rewritten).changed =
        .ok (rewritten || (outsideReference? m proxy.typeToken).isNone) := by
  obtain ⟨ty, hty⟩ := Option.isSome_iff_exists.1 h
  unfold removeProxy
  cases hout : outsideReference? m proxy.typeToken with
  | some user => simp [skip, Module.reduce_id]
  | none =>
    have hnonempty : (m.typeAndNested proxy.typeToken).isEmpty = false := by
      rw [Module.typeAndNested_eq_cons]
      rfl
    simp [Module.removeType, hty, hnonempty, Module.reduce, funext TypeDef.mapCode_id]

namespace Visit

/-- The name under which the proxy is reported. -/
def typeName (v : Visit) : String :=
  match v.module.typeDef? v.proxy.typeToken with
  | some ty => v.module.fullName ty
  | none => v.proxy.typeToken.display

/-- The journal of a replacement: the proxy, then the sites in their order. -/
def journal (v : Visit) (target : ResolvedMethod) : Journal :=
  let edited := Proxy.redirect v.module v.proxy target.callKind
  { events :=
      event .proxyResolved v.proxy.typeToken (v.typeName ++ " -> " ++ target.fullName) ::
        edited.state.reverse.map fun t =>
          event .callSiteRewritten t (target.callKind.display ++ " " ++ target.fullName)
    log :=
      [.info ("Resolved: " ++ target.fullName),
       .debug (v.typeName ++ ": " ++ toString edited.count ++ " call sites rewritten")] }

end Visit

/-- A proxy that is left alone is skipped. -/
theorem process_unresolved {resolver : Resolver} {v : Visit} (h : v.resolved? resolver = none)
    (removeTypes : Bool) : ∃ reason, process resolver removeTypes v.module v.proxy =
      skip v.module v.proxy.typeToken reason := by
  unfold process
  cases hmember : v.module.memberRef? v.proxy.target with
  | none => exact ⟨_, rfl⟩
  | some member =>
    cases htarget : resolver v.module member with
    | none =>
      simp only [htarget]
      exact ⟨_, rfl⟩
    | some target =>
      cases hstack : stackMismatch? v.module v.proxy target with
      | some nets =>
        simp only [htarget, hstack]
        exact ⟨_, rfl⟩
      | none => simp [Visit.resolved?, hmember, htarget, hstack] at h

theorem process_resolved {resolver : Resolver} {v : Visit} {target : ResolvedMethod}
    (h : v.resolved? resolver = some target) (removeTypes : Bool) :
    process resolver removeTypes v.module v.proxy =
      let edited := redirect v.module v.proxy target.callKind
      if removeTypes then
        let step := removeProxy edited.module v.proxy v.typeName (0 < edited.count)
        { step with journal := v.journal target ++ step.journal }
      else ⟨edited.module, v.journal target, .ok (0 < edited.count)⟩ := by
  obtain ⟨hbind, hstack⟩ := Option.filter_eq_some_iff.1 h
  obtain ⟨member, hmember, htarget⟩ := Option.bind_eq_some_iff.1 hbind
  have hnone : stackMismatch? v.module v.proxy target = none := by simpa using hstack
  unfold process
  simp only [hmember, htarget, hnone]
  rfl

/-- The module once the calls of the proxy have been redirected. -/
theorem Visit.module_redirected {resolver : Resolver} {v : Visit} {target : ResolvedMethod}
    (h : v.resolved? resolver = some target) :
    (Proxy.redirect v.module v.proxy target.callKind).module =
      v.module.mapCode (v.redirect resolver) := by
  rw [redirect_module, Visit.redirect_eq h]
  rfl

/-- Handling a proxy of the module succeeds and reduces the module. -/
theorem process_spec (resolver : Resolver) (removeTypes : Bool) {v : Visit}
    (h : (v.module.typeDef? v.proxy.typeToken).isSome) :
    (process resolver removeTypes v.module v.proxy).module = v.after resolver removeTypes ∧
      ∃ changed, (process resolver removeTypes v.module v.proxy).changed = .ok changed := by
  cases hres : v.resolved? resolver with
  | none =>
    obtain ⟨reason, hskip⟩ := process_unresolved hres removeTypes
    rw [hskip]
    exact ⟨(Visit.after_eq_self hres removeTypes).symm, false, rfl⟩
  | some target =>
    have hedit := Visit.module_redirected hres
    rw [process_resolved hres]
    cases removeTypes with
    | false =>
      refine ⟨?_, _, rfl⟩
      simp [hedit, Visit.after, Visit.removed, Module.reduce_nil]
    | true =>
      have hkept : ((redirect v.module v.proxy target.callKind).module.typeDef?
          v.proxy.typeToken).isSome := by
        rw [hedit]
        simpa using h
      obtain ⟨hmodule, hchanged⟩ := removeProxy_spec hkept v.typeName
        (0 < (redirect v.module v.proxy target.callKind).count)
      refine ⟨?_, _, hchanged⟩
      show (removeProxy _ _ _ _).module = _
      rw [hmodule, hedit, ← Module.reduce_nil, Module.reduce_reduce]
      simp [Visit.after, Visit.removed, hres, Module.reduce_nil]

/-! ## The run as a whole -/

/-- A proxy that is found is the shape of the first type with its token. -/
theorem found?_eq_some {m : Module} {t : Token} {proxy : ProxyType} (h : found? m t = some proxy) :
    proxy.typeToken = t ∧ ∃ ty ∈ m.types, m.typeDef? t = some ty ∧ ty.token = t ∧
      (ProxyType.detect ty).1 = some proxy := by
  obtain ⟨ty, hty, hdetect⟩ := Option.bind_eq_some_iff.1 h
  have htoken : ty.token = t := by simpa using List.find?_some hty
  exact ⟨(ProxyType.typeToken_of_detect hdetect).trans htoken, ty, List.mem_of_find?_eq_some hty,
    hty, htoken, hdetect⟩

theorem process_found {m : Module} {t : Token} {proxy : ProxyType} (h : found? m t = some proxy)
    (resolver : Resolver) (removeTypes : Bool) :
    (process resolver removeTypes m proxy).module = Visit.after resolver removeTypes ⟨m, proxy⟩ ∧
      ∃ changed, (process resolver removeTypes m proxy).changed = .ok changed := by
  obtain ⟨rfl, _, -, hty, -⟩ := found?_eq_some h
  exact process_spec resolver removeTypes (v := ⟨m, proxy⟩) (by simp [hty])

section Step

variable {resolver : Resolver} {removeTypes : Bool} {t : Token} {m : Module}

theorem visits_pass (h : found? m t = none) (rest : List Token) :
    visits resolver removeTypes (t :: rest) m = visits resolver removeTypes rest m := by
  rw [visits, h]

theorem visits_meet {proxy : ProxyType} (h : found? m t = some proxy) (rest : List Token) :
    visits resolver removeTypes (t :: rest) m =
      ⟨m, proxy⟩ ::
        visits resolver removeTypes rest (Visit.after resolver removeTypes ⟨m, proxy⟩) := by
  rw [visits, h]
  simp only [(process_found h resolver removeTypes).1]

theorem processAll_pass (h : found? m t = none) (rest : List Token) :
    (processAll resolver removeTypes (t :: rest) m).module =
        (processAll resolver removeTypes rest m).module ∧
      (processAll resolver removeTypes (t :: rest) m).changed =
        (processAll resolver removeTypes rest m).changed ∧
      (processAll resolver removeTypes (t :: rest) m).journal.events =
        (processAll resolver removeTypes rest m).journal.events := by
  rw [processAll]
  cases hty : m.typeDef? t with
  | none => exact ⟨rfl, rfl, rfl⟩
  | some ty =>
    rcases hdetect : ProxyType.detect ty with ⟨_ | proxy, log⟩
    · simp [hdetect]
    · simp [found?, hty, hdetect] at h

theorem processAll_meet {proxy : ProxyType} (h : found? m t = some proxy) (rest : List Token) :
    (processAll resolver removeTypes (t :: rest) m).module =
        (processAll resolver removeTypes rest
          (Visit.after resolver removeTypes ⟨m, proxy⟩)).module ∧
      ∃ changed, (process resolver removeTypes m proxy).changed = .ok changed ∧
        (processAll resolver removeTypes (t :: rest) m).changed =
          (processAll resolver removeTypes rest
            (Visit.after resolver removeTypes ⟨m, proxy⟩)).changed.map (changed || ·) ∧
        (processAll resolver removeTypes (t :: rest) m).journal.events =
          (process resolver removeTypes m proxy).journal.events ++
            (processAll resolver removeTypes rest
              (Visit.after resolver removeTypes ⟨m, proxy⟩)).journal.events := by
  obtain ⟨hmodule, changed, hchanged⟩ := process_found h resolver removeTypes
  obtain ⟨ty, hty, hdetect⟩ := Option.bind_eq_some_iff.1 h
  have hpair : ProxyType.detect ty = (some proxy, (ProxyType.detect ty).2) := Prod.ext hdetect rfl
  rw [processAll, hty, Option.map_some, hpair]
  simp only [hchanged, hmodule]
  exact ⟨trivial, changed, rfl, rfl, rfl⟩

end Step

/-- What holds of a run without candidates, and of a longer run if it holds of what is left of it
after the first candidate, holds of every run. -/
theorem run_induction (resolver : Resolver) (removeTypes : Bool)
    {motive : List Token → Module → Prop} (done : ∀ m, motive [] m)
    (pass : ∀ t rest m, found? m t = none → motive rest m → motive (t :: rest) m)
    (meet : ∀ t rest m proxy, found? m t = some proxy →
      motive rest (Visit.after resolver removeTypes ⟨m, proxy⟩) → motive (t :: rest) m)
    (ts : List Token) (m : Module) : motive ts m := by
  induction ts generalizing m with
  | nil => exact done m
  | cons t rest ih =>
    cases h : found? m t with
    | none => exact pass t rest m h (ih m)
    | some proxy => exact meet t rest m proxy h (ih _)

/-- The instruction that a run leaves in place of `i`. -/
def redirectAll (resolver : Resolver) (vs : List Visit) (i : Instruction) : Instruction :=
  vs.foldl (fun i v => v.redirect resolver i) i

/-- The tokens of the types that a run takes out. -/
def removedAll (resolver : Resolver) (removeTypes : Bool) (vs : List Visit) : List Token :=
  vs.flatMap (Visit.removed resolver removeTypes)

/-- A run succeeds, and leaves the module with all calls redirected and the nesting trees of the
replaced proxies taken out. -/
theorem processAll_spec (resolver : Resolver) (removeTypes : Bool) (ts : List Token) (m : Module) :
    (processAll resolver removeTypes ts m).module =
        m.reduce (redirectAll resolver (visits resolver removeTypes ts m))
          (removedAll resolver removeTypes (visits resolver removeTypes ts m)) ∧
      ∃ changed, (processAll resolver removeTypes ts m).changed = .ok changed := by
  induction ts, m using run_induction resolver removeTypes with
  | done m => exact ⟨(Module.reduce_id m).symm, false, rfl⟩
  | pass t rest m h ih =>
    obtain ⟨hmodule, hchanged, -⟩ := processAll_pass h rest
    rw [hmodule, hchanged, visits_pass h]
    exact ih
  | meet t rest m proxy h ih =>
    obtain ⟨hmodule, changed, -, hchanged, -⟩ := processAll_meet h rest
    obtain ⟨hlater, later, hlaterChanged⟩ := ih
    rw [hmodule, hchanged, hlater, hlaterChanged, visits_meet h]
    exact ⟨Module.reduce_reduce _ _ _ _ m, changed || later, rfl⟩

theorem processAll_reduces (resolver : Resolver) (removeTypes : Bool) (ts : List Token)
    (m : Module) : m.Reduces (processAll resolver removeTypes ts m).module := by
  induction ts, m using run_induction resolver removeTypes with
  | done m => exact .refl m
  | pass t rest m h ih =>
    rw [(processAll_pass h rest).1]
    exact ih
  | meet t rest m proxy h ih =>
    rw [(processAll_meet h rest).1]
    exact (Visit.reduces_after resolver removeTypes ⟨m, proxy⟩).trans ih

/-- A proxy is met in a reduction of the module, which reduces further to the end of the run, and
its type stands there. -/
theorem mem_visits {resolver : Resolver} {removeTypes : Bool} {ts : List Token} {m : Module}
    {v : Visit} (hv : v ∈ visits resolver removeTypes ts m) :
    m.Reduces v.module ∧ v.module.Reduces (processAll resolver removeTypes ts m).module ∧
      ∃ ty ∈ v.module.types, (ProxyType.detect ty).1 = some v.proxy := by
  induction ts, m using run_induction resolver removeTypes with
  | done m => exact absurd hv List.not_mem_nil
  | pass t rest m h ih =>
    rw [visits_pass h] at hv
    rw [(processAll_pass h rest).1]
    exact ih hv
  | meet t rest m proxy h ih =>
    rw [visits_meet h] at hv
    rw [(processAll_meet h rest).1]
    have hafter := Visit.reduces_after resolver removeTypes ⟨m, proxy⟩
    rcases List.mem_cons.1 hv with rfl | hv
    · obtain ⟨-, ty, hty, -, -, hdetect⟩ := found?_eq_some h
      exact ⟨.refl m, hafter.trans (processAll_reduces resolver removeTypes rest _), ty, hty,
        hdetect⟩
    · obtain ⟨hbefore, hrest⟩ := ih hv
      exact ⟨hafter.trans hbefore, hrest⟩

/-- The proxies met before a visit have made the module of the visit, and the proxy itself with
those met after it makes the end of the run from it. -/
theorem visits_split {resolver : Resolver} {removeTypes : Bool} {ts : List Token} {m : Module}
    {v : Visit} (hv : v ∈ visits resolver removeTypes ts m) :
    ∃ earlier later, visits resolver removeTypes ts m = earlier ++ v :: later ∧
      v.module =
        m.reduce (redirectAll resolver earlier) (removedAll resolver removeTypes earlier) ∧
      (processAll resolver removeTypes ts m).module =
        v.module.reduce (redirectAll resolver (v :: later))
          (removedAll resolver removeTypes (v :: later)) := by
  induction ts, m using run_induction resolver removeTypes with
  | done m => exact absurd hv List.not_mem_nil
  | pass t rest m h ih =>
    rw [visits_pass h] at hv ⊢
    rw [(processAll_pass h rest).1]
    exact ih hv
  | meet t rest m proxy h ih =>
    have hspec := (processAll_spec resolver removeTypes (t :: rest) m).1
    rw [visits_meet h] at hv hspec ⊢
    rcases List.mem_cons.1 hv with rfl | hv
    · exact ⟨[], _, rfl, (Module.reduce_id m).symm, hspec⟩
    · obtain ⟨earlier, later, hsplit, hmodule, hend⟩ := ih hv
      refine ⟨⟨m, proxy⟩ :: earlier, later, by rw [hsplit]; rfl, ?_, ?_⟩
      · rw [hmodule]
        exact Module.reduce_reduce _ _ _ _ m
      · rw [(processAll_meet h rest).1]
        exact hend

/-- Each proxy is met for a candidate of its own. -/
theorem visits_sublist (resolver : Resolver) (removeTypes : Bool) (ts : List Token) (m : Module) :
    ((visits resolver removeTypes ts m).map fun v => v.proxy.typeToken).Sublist ts := by
  induction ts, m using run_induction resolver removeTypes with
  | done m => exact .slnil
  | pass t rest m h ih =>
    rw [visits_pass h]
    exact ih.cons t
  | meet t rest m proxy h ih =>
    obtain ⟨rfl, -⟩ := found?_eq_some h
    rw [visits_meet h]
    exact ih.cons_cons proxy.typeToken

/-! ## The pass -/

theorem insertByDepth_perm (c : Nat × Token) (l : List (Nat × Token)) :
    (insertByDepth c l).Perm (c :: l) := by
  induction l with
  | nil => exact .refl _
  | cons d rest ih =>
    unfold insertByDepth
    split
    · exact .refl _
    · exact (ih.cons d).trans (.swap c d rest)

theorem foldr_insertByDepth_perm (l : List (Nat × Token)) :
    (l.foldr insertByDepth []).Perm l := by
  induction l with
  | nil => exact .refl _
  | cons c rest ih => exact (insertByDepth_perm c _).trans (ih.cons c)

/-- The candidates are the delegate types. -/
theorem candidates_perm (m : Module) :
    (candidates m).Perm ((m.types.filter TypeDef.isDelegate).map TypeDef.token) := by
  have hperm := (foldr_insertByDepth_perm ((m.types.filter TypeDef.isDelegate).map fun ty =>
    (m.nestingDepth ty, ty.token))).map Prod.snd
  rwa [List.map_map] at hperm

theorem candidates_nodup {m : Module} (h : (m.types.map TypeDef.token).Nodup) :
    (candidates m).Nodup :=
  (candidates_perm m).nodup_iff.2 (h.sublist (List.filter_sublist.map TypeDef.token))

/-- The module that the pass leaves. -/
def run (resolver : Resolver) (removeTypes : Bool) (m : Module) : Module :=
  (processAll resolver removeTypes (candidates m) m).module

/-- The proxies that the pass meets. -/
def met (resolver : Resolver) (removeTypes : Bool) (m : Module) : List Visit :=
  visits resolver removeTypes (candidates m) m

/-- The proxies that the pass replaces. -/
def replaced (resolver : Resolver) (removeTypes : Bool) (m : Module) : List Visit :=
  (met resolver removeTypes m).filter fun v => (v.resolved? resolver).isSome

theorem pass_run_module {σ : Type} (resolver : Resolver) (removeTypes : Bool) (m : Module) (s : σ) :
    ((pass resolver removeTypes).run m s).module = run resolver removeTypes m := rfl

theorem run_eq (resolver : Resolver) (removeTypes : Bool) (m : Module) :
    run resolver removeTypes m =
      m.reduce (redirectAll resolver (met resolver removeTypes m))
        (removedAll resolver removeTypes (met resolver removeTypes m)) :=
  (processAll_spec resolver removeTypes (candidates m) m).1

/-- With distinct type tokens, a proxy is met once. -/
theorem met_unique {resolver : Resolver} {removeTypes : Bool} {m : Module}
    (h : (m.types.map TypeDef.token).Nodup) {v w : Visit} (hv : v ∈ met resolver removeTypes m)
    (hw : w ∈ met resolver removeTypes m) (heq : v.proxy.typeToken = w.proxy.typeToken) :
    v = w := by
  have hnodup : ((met resolver removeTypes m).map fun v => v.proxy.typeToken).Nodup :=
    (candidates_nodup h).sublist (visits_sublist resolver removeTypes (candidates m) m)
  exact List.inj_on_of_nodup_map hnodup hv hw heq

/-- The type of a proxy that is met is a type of the module, and declares the entry. -/
theorem met_type {resolver : Resolver} {removeTypes : Bool} {ts : List Token} {m : Module}
    {v : Visit} (hv : v ∈ visits resolver removeTypes ts m) :
    ∃ ty ∈ m.types, ty.token = v.proxy.typeToken ∧
      v.proxy.entry ∈ ty.methods.map MethodDef.token := by
  obtain ⟨hreduces, -, ty', hty', hdetect⟩ := mem_visits hv
  obtain ⟨f, ty, hty, rfl⟩ := hreduces.exists_type hty'
  refine ⟨ty, hty, (ProxyType.typeToken_of_detect hdetect).symm, ?_⟩
  simpa using ProxyType.entry_of_detect hdetect

end Unmask.Proxy
