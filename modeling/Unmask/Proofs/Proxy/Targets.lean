import Unmask.Proofs.Proxy.Redirect

/-!
# Targets of redirected calls

A call is redirected to a reference that resolves at that moment. The types taken out later may
declare the very method it resolves to: the proxy's own type, or one nested in it, since the check
for uses from outside looks for the tokens of definitions and a redirected call names a reference.
Then the reference resolves to whatever definition is left, if any.
-/

namespace Unmask

/-- The definitions of a reference in the types of `m` that are left in `m'`, and those in the
reference modules, in the order of the search. -/
def Module.definitionsLeft (references : List Module) (m m' : Module) (r : MemberRef) :
    List ResolvedMethod :=
  ((m.definitions r).filter fun x => x.1.token ∈ m'.types.map TypeDef.token).map m.resolvedAs ++
    references.flatMap fun c => (c.definitions r).map c.resolvedAs

/-- After a reduction a reference resolves to the first definition that is left. -/
theorem Module.Reduces.resolveWith_eq {m m' : Module} (h : m.Reduces m') (references : List Module)
    (r : MemberRef) : resolveWith references m' r = (m.definitionsLeft references m' r).head? := by
  rw [Module.resolveWith_eq, List.flatMap_cons, h.definitions]
  rfl

/-- While the type that declares the method found is left, it is found again. A method found in a
reference module is found in any case. -/
theorem Module.Reduces.resolveWith_stable {m m' : Module} (h : m.Reduces m')
    {references : List Module} {r : MemberRef} {target : ResolvedMethod}
    (hfound : resolveWith references m r = some target)
    (hleft : ∀ x, (m.definitions r).head? = some x → x.1.token ∈ m'.types.map TypeDef.token) :
    resolveWith references m' r = some target := by
  rw [h.resolveWith_eq, ← hfound, Module.resolveWith_eq, List.flatMap_cons, definitionsLeft]
  cases hdefs : m.definitions r with
  | nil => rfl
  | cons x rest =>
    have hx : x.1.token ∈ m'.types.map TypeDef.token := hleft x (by simp [hdefs])
    rw [List.filter_cons_of_pos (by simpa using hx)]
    rfl

/-- A reference that resolves after a reduction resolved before it. -/
theorem Module.Reduces.isSome_resolveWith {m m' : Module} (h : m.Reduces m')
    {references : List Module} {r : MemberRef} (hsome : (resolveWith references m' r).isSome) :
    (resolveWith references m r).isSome := by
  have hsub : (m.definitionsLeft references m' r).Sublist
      ((m :: references).flatMap fun c => (c.definitions r).map c.resolvedAs) := by
    rw [List.flatMap_cons]
    exact (List.filter_sublist.map _).append (.refl _)
  rw [h.resolveWith_eq, List.isSome_head?] at hsome
  rw [Module.resolveWith_eq, List.isSome_head?]
  intro hnil
  rw [hnil] at hsub
  exact hsome (List.sublist_nil.1 hsub)

namespace Proxy

/-- The reference resolves to a method that is called by the same instruction as `target`. -/
def KeepsKind (references : List Module) (m : Module) (r : MemberRef) (target : ResolvedMethod) :
    Prop :=
  ∃ found, resolveWith references m r = some found ∧ found.isStatic = target.isStatic ∧
    found.isConstructor = target.isConstructor

variable {references : List Module} {removeTypes : Bool} {m : Module}

/-- The reference of a replaced proxy is still there when the pass has ended, and resolves to a
method of the same kind exactly if the type that declared the method is left, or else the first of
the definitions left is of that kind. -/
theorem replaced_target_iff {v : Visit} (hv : v ∈ met (resolveWith references) removeTypes m)
    {target : ResolvedMethod} (hres : v.resolved? (resolveWith references) = some target)
    {after : Module} (hafter : after = run (resolveWith references) removeTypes m) :
    ∃ member, after.memberRef? v.proxy.target = some member ∧
      (KeepsKind references after member target ↔
        ∀ x, (v.module.definitions member).head? = some x →
          x.1.token ∉ after.types.map TypeDef.token →
          ∃ found, (v.module.definitionsLeft references after member).head? = some found ∧
            found.isStatic = target.isStatic ∧ found.isConstructor = target.isConstructor) := by
  obtain ⟨-, hreduces, -⟩ := mem_visits hv
  replace hreduces : v.module.Reduces after := hafter ▸ hreduces
  obtain ⟨member, hmember, htarget⟩ := Visit.resolved?_eq_some hres
  refine ⟨member, (hreduces.memberRef? v.proxy.target).trans hmember, ?_⟩
  constructor
  · rintro ⟨found, hfound, hkind⟩ x - -
    exact ⟨found, (hreduces.resolveWith_eq references member).symm.trans hfound, hkind⟩
  · intro h
    by_cases hleft : ∀ x, (v.module.definitions member).head? = some x →
        x.1.token ∈ after.types.map TypeDef.token
    · exact ⟨target, hreduces.resolveWith_stable htarget hleft, rfl, rfl⟩
    · obtain ⟨x, hx⟩ := not_forall.1 hleft
      obtain ⟨hhead, hgone⟩ := Classical.not_imp.1 hx
      obtain ⟨found, hfound, hkind⟩ := h x hhead hgone
      exact ⟨found, (hreduces.resolveWith_eq references member).trans hfound, hkind⟩

/-- A slot that the pass redirected holds the direct call of a replaced proxy. -/
theorem slot_redirected {resolver : Resolver} (hmethods : (m.methods.map MethodDef.token).Nodup)
    {d d' : MethodDef} (hd : d ∈ m.methods) (hd' : d' ∈ (run resolver removeTypes m).methods)
    (htoken : d'.token = d.token) {k : Nat} {old new : Instruction}
    (hold : d.code[k]? = some old) (hnew : d'.code[k]? = some new)
    (hredirected : new ≠ old ∨ redirected resolver (met resolver removeTypes m) old) :
    ∃ v ∈ met resolver removeTypes m, ∃ target, v.resolved? resolver = some target ∧
      new = v.directCall target := by
  obtain ⟨d₀, hd₀, rfl⟩ := mem_methods_run hd'
  obtain rfl : d₀ = d := List.inj_on_of_nodup_map hmethods hd₀ hd htoken
  rw [MethodDef.mapCode_code, Array.getElem?_map, hold, Option.map_some, Option.some.injEq] at hnew
  subst hnew
  apply redirectAll_of_redirected
  rcases hredirected with hne | hredirected
  · by_contra hnot
    exact hne (redirectAll_of_not_redirected hnot)
  · exact hredirected

/-- A slot that the pass redirected, be it to another instruction or to the same, holds the direct
call that replaces some proxy, and its reference is there when the pass has ended. It resolves to a
method of the kind that chose the opcode exactly if the type that declared that method has not been
taken out, or else the first of the definitions left is of that kind. -/
theorem redirected_target_iff (hmethods : (m.methods.map MethodDef.token).Nodup)
    {after : Module} (hafter : after = run (resolveWith references) removeTypes m)
    {d d' : MethodDef} (hd : d ∈ m.methods) (hd' : d' ∈ after.methods)
    (htoken : d'.token = d.token) {k : Nat} {old new : Instruction}
    (hold : d.code[k]? = some old) (hnew : d'.code[k]? = some new)
    (hredirected : new ≠ old ∨
      redirected (resolveWith references) (met (resolveWith references) removeTypes m) old) :
    ∃ v ∈ met (resolveWith references) removeTypes m, ∃ target member,
      v.resolved? (resolveWith references) = some target ∧ new = v.directCall target ∧
      after.memberRef? v.proxy.target = some member ∧
      (KeepsKind references after member target ↔
        ∀ x, (v.module.definitions member).head? = some x →
          x.1.token ∉ after.types.map TypeDef.token →
          ∃ found, (v.module.definitionsLeft references after member).head? = some found ∧
            found.isStatic = target.isStatic ∧ found.isConstructor = target.isConstructor) := by
  obtain ⟨v, hv, target, hres, hdirect⟩ :=
    slot_redirected hmethods hd (hafter ▸ hd') htoken hold hnew hredirected
  obtain ⟨member, hmember, hkeeps⟩ := replaced_target_iff hv hres hafter
  exact ⟨v, hv, target, member, hres, hdirect, hmember, hkeeps⟩

/-! ## A target inside the proxy -/

/-- A module with a proxy for the method `Write` of the given class. There is one in the type nested
in the proxy and one in the program. -/
def gatewayModule (className : String) : Module where
  name := "app"
  types :=
    [{ token := ⟨0x02000001⟩
       name := "Gateway"
       isDelegate := true
       methods :=
        [⟨⟨0x06000001⟩, ".cctor", 0x10, ⟨false, .void, []⟩, some
            #[⟨.ldcI4Zero, .none⟩, ⟨.ldcI4, .immediate (.int32 0x0A000001)⟩, ⟨.ldcI4Zero, .none⟩,
              .call ⟨0x0A000002⟩]⟩,
         ⟨⟨0x06000002⟩, "Invoke", 0, ⟨true, .void, []⟩, none⟩,
         ⟨⟨0x06000003⟩, "Enter", 0x10, ⟨false, .void, []⟩, some #[.call ⟨0x06000002⟩]⟩] },
     { token := ⟨0x02000002⟩
       name := "Worker"
       enclosing := some ⟨0x02000001⟩
       methods := [⟨⟨0x06000004⟩, "Write", 0x10, ⟨false, .void, []⟩, none⟩] },
     { token := ⟨0x02000003⟩
       name := "Program"
       methods :=
        [⟨⟨0x06000005⟩, "Main", 0x10, ⟨false, .void, []⟩, some #[.call ⟨0x06000003⟩]⟩,
         ⟨⟨0x06000006⟩, "Write", 0x10, ⟨false, .void, []⟩, none⟩] }]
  memberRefs := [⟨⟨0x0A000001⟩, className, "Write", .method ⟨false, .void, []⟩⟩]

/-- The main method of that module, before and after the call of the proxy is redirected. -/
def gatewayMain (callee : Token) : MethodDef :=
  ⟨⟨0x06000005⟩, "Main", 0x10, ⟨false, .void, []⟩, some #[.call callee]⟩

/-- A target in the program is kept. -/
theorem redirected_target_program :
    let after := run (resolveWith []) true (gatewayModule "Program")
    ∃ v ∈ met (resolveWith []) true (gatewayModule "Program"), ∃ target member,
      v.resolved? (resolveWith []) = some target ∧
      (Instruction.call ⟨0x0A000001⟩) = v.directCall target ∧
      after.memberRef? v.proxy.target = some member ∧ KeepsKind [] after member target := by
  intro after
  have hbefore : gatewayMain ⟨0x06000003⟩ ∈ (gatewayModule "Program").methods := by decide
  have hafter : gatewayMain ⟨0x0A000001⟩ ∈ after.methods := by decide +kernel
  have hold : (gatewayMain ⟨0x06000003⟩).code[0]? = some (.call ⟨0x06000003⟩) := rfl
  have hleft : ∀ v ∈ met (resolveWith []) true (gatewayModule "Program"),
      ∀ member ∈ after.memberRef? v.proxy.target, ∀ x ∈ (v.module.definitions member).head?,
        x.1.token ∈ after.types.map TypeDef.token := by
    decide +kernel
  obtain ⟨v, hv, target, member, hres, hnew, hmember, hkeeps⟩ :=
    redirected_target_iff (by decide) (rfl : after = _) hbefore hafter rfl hold rfl
      (.inl (by decide))
  exact ⟨v, hv, target, member, hres, hnew, hmember,
    hkeeps.2 fun x hx hgone => absurd (hleft v hv member hmember x hx) hgone⟩

/-- A target in the type nested in the proxy is lost: the module has distinct tokens, the call in
the main method is redirected, and its reference no longer resolves. -/
theorem redirected_target_lost :
    let m := gatewayModule "Gateway/Worker"
    let after := run (resolveWith []) true m
    (m.types.map TypeDef.token).Nodup ∧ (m.methods.map MethodDef.token).Nodup ∧
      gatewayMain ⟨0x06000003⟩ ∈ m.methods ∧ gatewayMain ⟨0x0A000001⟩ ∈ after.methods ∧
      ∃ member ∈ after.memberRef? ⟨0x0A000001⟩, resolveWith [] after member = none := by
  refine ⟨by decide, by decide, by decide, by decide +kernel, ?_⟩
  decide +kernel

end Proxy

end Unmask
