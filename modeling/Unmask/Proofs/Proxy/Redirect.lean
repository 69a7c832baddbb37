import Unmask.Proofs.Proxy.Run

/-!
# What a run makes of an instruction

An instruction ends as it was or as the direct call of a proxy that was replaced. Entries are method
definitions and direct calls name references, so in a module whose method tokens lie in the table of
definitions no instruction is redirected twice: the direct call is that of the proxy whose entry the
instruction called.
-/

namespace Unmask

theorem Token.not_isMethodDef {t : Token} (h : t.isMemberRef) : ¬ t.isMethodDef := by
  intro hdef
  have href : t.table = memberRefTable := by simpa [isMemberRef] using h
  have hdef : t.table = methodDefTable := by simpa [isMethodDef] using hdef
  exact absurd (href.symm.trans hdef) (by decide)

theorem Instruction.calls_iff {i : Instruction} {t : Token} :
    i.calls t ↔ i.isCall ∧ i.operand = .method t := by
  unfold calls method?
  cases i.operand <;> simp

/-- A direct call loads no constant. -/
theorem Instruction.constant?_directCall {op : OpCode}
    (hop : op ∈ [OpCode.call, .callvirt, .newobj]) (t : Token) :
    Instruction.constant? ⟨op, .method t⟩ = none := by
  have hnone : ∀ op ∈ [OpCode.call, .callvirt, .newobj],
      op.implicitI4? = none ∧ op.isLdcI4 = false := by
    decide
  simp [constant?, hnone op hop]

namespace Proxy

variable {resolver : Resolver} {removeTypes : Bool} {m : Module}

theorem callKind_mem (target : ResolvedMethod) :
    target.callKind ∈ [OpCode.call, .callvirt, .newobj] := by
  unfold ResolvedMethod.callKind
  grind

theorem callKind_eq_newobj_iff (target : ResolvedMethod) :
    target.callKind = .newobj ↔ target.isConstructor := by
  unfold ResolvedMethod.callKind
  cases target.isConstructor with
  | true => simp
  | false => cases target.isStatic <;> decide

theorem Visit.resolved?_eq_some {v : Visit} {target : ResolvedMethod}
    (h : v.resolved? resolver = some target) : ∃ member,
      v.module.memberRef? v.proxy.target = some member ∧
      resolver v.module member = some target := by
  obtain ⟨hbind, -⟩ := Option.filter_eq_some_iff.1 h
  exact Option.bind_eq_some_iff.1 hbind

theorem Visit.target_isMemberRef {v : Visit} {target : ResolvedMethod}
    (h : v.resolved? resolver = some target) : v.proxy.target.isMemberRef := by
  obtain ⟨member, hmember, -⟩ := resolved?_eq_some h
  by_contra htable
  simp [Module.memberRef?, htable] at hmember

theorem Visit.redirect_cases (resolver : Resolver) (v : Visit) (i : Instruction) :
    (v.redirect resolver i = i ∧ ((v.resolved? resolver).isSome → ¬ i.calls v.proxy.entry)) ∨
      ∃ target, v.resolved? resolver = some target ∧ i.calls v.proxy.entry ∧
        v.redirect resolver i = v.directCall target := by
  unfold redirect
  cases hres : v.resolved? resolver with
  | none => simp
  | some target => by_cases hcall : i.calls v.proxy.entry <;> simp [hcall]

/-- Whether some proxy takes the instruction, as the ones before left it, for a call of its
entry. -/
def redirected (resolver : Resolver) : List Visit → Instruction → Bool
  | [], _ => false
  | v :: rest, i =>
    (v.resolved? resolver).isSome && i.calls v.proxy.entry ||
      redirected resolver rest (v.redirect resolver i)

/-- An instruction that is not redirected is left as it is. -/
theorem redirectAll_of_not_redirected {vs : List Visit} {i : Instruction}
    (h : ¬ redirected resolver vs i) : redirectAll resolver vs i = i := by
  induction vs generalizing i with
  | nil => rfl
  | cons v rest ih =>
    simp only [redirected, Bool.or_eq_true, not_or] at h
    obtain ⟨hhead, hrest⟩ := h
    have hlater : redirectAll resolver (v :: rest) i = v.redirect resolver i := ih hrest
    rcases v.redirect_cases resolver i with ⟨hstay, -⟩ | ⟨target, hres, hcall, -⟩
    · exact hlater.trans hstay
    · exact absurd (by simp [hres, hcall]) hhead

/-- An instruction that is redirected ends as the direct call of a proxy that is replaced. -/
theorem redirectAll_of_redirected {vs : List Visit} {i : Instruction}
    (h : redirected resolver vs i) : ∃ v ∈ vs, ∃ target, v.resolved? resolver = some target ∧
      redirectAll resolver vs i = v.directCall target := by
  induction vs generalizing i with
  | nil => cases h
  | cons v rest ih =>
    by_cases hrest : redirected resolver rest (v.redirect resolver i)
    · obtain ⟨w, hw, target, hres, hdirect⟩ := ih hrest
      exact ⟨w, List.mem_cons_of_mem v hw, target, hres, hdirect⟩
    · -- no later proxy takes it, so `v` does
      have hlater : redirectAll resolver (v :: rest) i = v.redirect resolver i :=
        redirectAll_of_not_redirected hrest
      have hhead : (v.resolved? resolver).isSome ∧ i.calls v.proxy.entry := by
        simpa [redirected, hrest] using h
      rcases v.redirect_cases resolver i with ⟨-, hno⟩ | ⟨target, hres, -, hdirect⟩
      · exact absurd hhead.2 (hno hhead.1)
      · exact ⟨v, List.mem_cons_self, target, hres, hlater.trans hdirect⟩

/-- A direct call names a reference, so it is no call of an entry. -/
theorem Visit.not_calls_directCall {v : Visit} {target : ResolvedMethod}
    (h : v.resolved? resolver = some target) {entry : Token} (hentry : entry.isMethodDef) :
    ¬ (v.directCall target).calls entry := by
  intro hcalls
  obtain ⟨-, hoperand⟩ := Instruction.calls_iff.1 hcalls
  obtain rfl : v.proxy.target = entry := Operand.method.inj hoperand
  exact Token.not_isMethodDef (target_isMemberRef h) hentry

theorem redirectAll_directCall {vs : List Visit} (hentries : ∀ v ∈ vs, v.proxy.entry.isMethodDef)
    {v : Visit} {target : ResolvedMethod} (h : v.resolved? resolver = some target) :
    redirectAll resolver vs (v.directCall target) = v.directCall target := by
  induction vs with
  | nil => rfl
  | cons w rest ih =>
    have hstay : w.redirect resolver (v.directCall target) = v.directCall target := by
      rcases w.redirect_cases resolver (v.directCall target) with ⟨hstay, -⟩ | ⟨_, -, hcall, -⟩
      · exact hstay
      · exact absurd hcall (Visit.not_calls_directCall h (hentries w List.mem_cons_self))
    show redirectAll resolver rest (w.redirect resolver (v.directCall target)) = _
    rw [hstay]
    exact ih fun u hu => hentries u (List.mem_cons_of_mem w hu)

/-- With entries among the method definitions, an instruction is redirected at most once, by a proxy
whose entry it calls. -/
theorem redirectAll_exact {vs : List Visit} (hentries : ∀ v ∈ vs, v.proxy.entry.isMethodDef)
    (i : Instruction) :
    (redirectAll resolver vs i = i ∧
        ∀ v ∈ vs, (v.resolved? resolver).isSome → ¬ i.calls v.proxy.entry) ∨
      ∃ v ∈ vs, ∃ target, v.resolved? resolver = some target ∧ i.calls v.proxy.entry ∧
        redirectAll resolver vs i = v.directCall target := by
  induction vs with
  | nil => exact .inl ⟨rfl, fun v hv => absurd hv List.not_mem_nil⟩
  | cons v rest ih =>
    have hrest : ∀ w ∈ rest, w.proxy.entry.isMethodDef := fun w hw =>
      hentries w (List.mem_cons_of_mem v hw)
    have hcons : redirectAll resolver (v :: rest) i =
        redirectAll resolver rest (v.redirect resolver i) := rfl
    rcases v.redirect_cases resolver i with ⟨hstay, hno⟩ | ⟨target, hres, hcall, hdirect⟩
    · rw [hcons, hstay]
      rcases ih hrest with ⟨hsame, hnone⟩ | ⟨w, hw, target, hres, hcall, hdirect⟩
      · refine .inl ⟨hsame, fun w hw hsome => ?_⟩
        rcases List.mem_cons.1 hw with rfl | hw
        · exact hno hsome
        · exact hnone w hw hsome
      · exact .inr ⟨w, List.mem_cons_of_mem v hw, target, hres, hcall, hdirect⟩
    · refine .inr ⟨v, List.mem_cons_self, target, hres, hcall, ?_⟩
      rw [hcons, hdirect, redirectAll_directCall hrest hres]

/-- The methods left are methods of the module with their instructions redirected. -/
theorem mem_methods_run {d' : MethodDef}
    (h : d' ∈ (run resolver removeTypes m).methods) :
    ∃ d ∈ m.methods, d' = d.mapCode (redirectAll resolver (met resolver removeTypes m)) := by
  rw [run_eq] at h
  exact Module.mem_methods_reduce h

/-- Entries are methods of the module. -/
theorem met_entry {ts : List Token} {v : Visit} (hv : v ∈ visits resolver removeTypes ts m) :
    ∃ d ∈ m.methods, d.token = v.proxy.entry := by
  obtain ⟨ty, hty, -, hentry⟩ := met_type hv
  obtain ⟨d, hd, hdtoken⟩ := List.mem_map.1 hentry
  exact ⟨d, List.mem_flatMap.2 ⟨ty, hty, hd⟩, hdtoken⟩

theorem met_entry_isMethodDef (htable : ∀ d ∈ m.methods, d.token.isMethodDef) {ts : List Token}
    {v : Visit} (hv : v ∈ visits resolver removeTypes ts m) : v.proxy.entry.isMethodDef := by
  obtain ⟨d, hd, hdtoken⟩ := met_entry hv
  exact hdtoken ▸ htable d hd

end Proxy

end Unmask
