import Unmask.Proofs.Proxy.Dangling
import Unmask.Proofs.Proxy.Targets

/-!
# Types that go with a proxy

A proxy type is taken out with everything nested in it, but only if no method that stays names a
nested type or a method of one. What the rest of the run writes into the methods that stay are
direct calls, and these name references. So no name of a type that went with a proxy is left,
whatever the nesting looks like.
-/

namespace Unmask

theorem Instruction.names_iff {i : Instruction} {ty : TypeDef} :
    i.names ty ↔ ∃ t, i.token? = some t ∧ (t = ty.token ∨ t ∈ ty.methods.map MethodDef.token) := by
  simp [names, Option.any_eq_true]

theorem TypeDef.mapCode_tokens (f : Instruction → Instruction) (ty : TypeDef) :
    (ty.mapCode f).methods.map MethodDef.token = ty.methods.map MethodDef.token := by
  simp [Function.comp_def]

theorem Instruction.names_mapCode {i : Instruction} {f : Instruction → Instruction}
    {ty : TypeDef} : i.names (ty.mapCode f) ↔ i.names ty := by
  simp only [names_iff, TypeDef.mapCode_token, TypeDef.mapCode_tokens]

namespace Proxy

variable {resolver : Resolver} {removeTypes : Bool} {m : Module}

/-- Where no use from outside is found, no method outside names what is nested. -/
theorem not_names_of_outsideReference? {proxy : Token} (h : outsideReference? m proxy = none)
    {u : TypeDef} (hu : u ∈ m.types) (houtside : u.token ∉ m.typeAndNested proxy) {d : MethodDef}
    (hd : d ∈ u.methods) {i : Instruction} (hi : i ∈ d.code) {ty : TypeDef} (hty : ty ∈ m.types)
    (hnested : ty.token ∈ (m.typeAndNested proxy).tail) : ¬ i.names ty := by
  have hsome : (m.typeAndNested proxy).tail.isEmpty = false := by
    rw [List.isEmpty_eq_false_iff_exists_mem]
    exact ⟨_, hnested⟩
  simp only [outsideReference?, hsome, Bool.false_eq_true, if_false, Option.map_eq_none_iff,
    List.find?_eq_none] at h
  intro hnames
  obtain ⟨t, ht, hname⟩ := Instruction.names_iff.1 hnames
  have hmethod := h d (List.mem_flatMap.2 ⟨u, List.mem_filter.2 ⟨hu, by simpa using houtside⟩, hd⟩)
  refine hmethod (Array.any_eq_true'.2 ⟨i, hi, ?_⟩)
  rw [ht, Option.any_some, Bool.or_eq_true, decide_eq_true_eq, decide_eq_true_eq]
  rcases hname with rfl | hmember
  · exact .inl hnested
  · exact .inr (List.mem_flatMap.2 ⟨ty, List.mem_filter.2 ⟨hty, by simpa using hnested⟩, hmember⟩)

/-- Later proxies write direct calls, which do not name a type outside the table of references. -/
theorem not_names_redirectAll {vs : List Visit} {ty : TypeDef} (hown : ¬ ty.token.isMemberRef)
    (htable : ∀ d ∈ ty.methods, d.token.isMethodDef) {i : Instruction} (h : ¬ i.names ty) :
    ¬ (redirectAll resolver vs i).names ty := by
  by_cases hredirected : redirected resolver vs i
  · obtain ⟨v, -, target, hres, hdirect⟩ := redirectAll_of_redirected hredirected
    rw [hdirect, names_directCall hres htable]
    intro heq
    exact hown (heq ▸ Visit.target_isMemberRef hres)
  · rwa [redirectAll_of_not_redirected hredirected]

/-- A type that is there before a proxy is handled and not after it, and is not the proxy's own, is
nested in the proxy, and no use of what is nested was found. -/
theorem Visit.nested_of_gone {v : Visit} (hv : v ∈ met resolver removeTypes m) {t : Token}
    (hbefore : t ∈ v.module.types.map TypeDef.token)
    (hgone : t ∉ (process resolver removeTypes v.module v.proxy).module.types.map TypeDef.token)
    (hother : t ≠ v.proxy.typeToken) :
    t ∈ (v.module.typeAndNested v.proxy.typeToken).tail ∧
      v.removed resolver removeTypes = v.module.typeAndNested v.proxy.typeToken ∧
      outsideReference? (v.module.mapCode (v.redirect resolver)) v.proxy.typeToken = none := by
  obtain ⟨-, -, own, hown, hdetect⟩ := mem_visits hv
  have hdeclared : (v.module.typeDef? v.proxy.typeToken).isSome :=
    List.find?_isSome.2 ⟨own, hown, by simp [ProxyType.typeToken_of_detect hdetect]⟩
  rw [(process_spec resolver removeTypes hdeclared).1, Visit.after,
    Module.mem_tokens_reduce] at hgone
  have hremoved : t ∈ v.removed resolver removeTypes := by
    by_contra hkept
    exact hgone ⟨hbefore, hkept⟩
  unfold Visit.removed at hremoved ⊢
  split at hremoved
  · rename_i hcond
    have hnone : outsideReference? (v.module.mapCode (v.redirect resolver)) v.proxy.typeToken =
        none := by
      simp only [Bool.and_eq_true, Option.isNone_iff_eq_none] at hcond
      exact hcond.2
    rw [Module.typeAndNested_eq_cons, List.mem_cons] at hremoved
    exact ⟨hremoved.resolve_left hother, if_pos hcond, hnone⟩
  · cases hremoved

/-- What is left at the end stood in a type that the visit left, and was redirected there first. -/
theorem Visit.exists_code {v : Visit} (hv : v ∈ met resolver removeTypes m) {d : MethodDef}
    (hd : d ∈ (run resolver removeTypes m).methods) {i : Instruction} (hi : i ∈ d.code) :
    ∃ u ∈ v.module.types, u.token ∉ v.removed resolver removeTypes ∧ ∃ e ∈ u.methods,
      ∃ old ∈ e.code, ∃ later, i = redirectAll resolver later (v.redirect resolver old) := by
  obtain ⟨earlier, later, -, -, hend⟩ := visits_split hv
  rw [run, hend] at hd
  obtain ⟨u', hu', hd'⟩ := List.mem_flatMap.1 hd
  obtain ⟨u, hu, hkept, rfl⟩ := Module.mem_types_reduce.1 hu'
  obtain ⟨e, he, rfl⟩ := List.mem_map.1 hd'
  rw [MethodDef.mapCode_code] at hi
  obtain ⟨old, hold, rfl⟩ := Array.mem_map.1 hi
  refine ⟨u, hu, fun hremoved => ?_, e, he, old, hold, later, rfl⟩
  exact hkept (List.mem_flatMap.2 ⟨v, List.mem_cons_self, hremoved⟩)

/-- No method left at the end names a type that went with a proxy, or a method of such a type. -/
theorem not_names_nested (htypes : (m.types.map TypeDef.token).Nodup)
    (hown : ∀ ty ∈ m.types, ¬ ty.token.isMemberRef)
    (htable : ∀ d ∈ m.methods, d.token.isMethodDef) {v : Visit} (hv : v ∈ met resolver true m)
    {ty : TypeDef} (hty : ty ∈ m.types) (hbefore : ty.token ∈ v.module.types.map TypeDef.token)
    (hgone : ty.token ∉ (process resolver true v.module v.proxy).module.types.map TypeDef.token)
    (hother : ty.token ≠ v.proxy.typeToken) :
    ∀ d ∈ (run resolver true m).methods, ∀ i ∈ d.code, ¬ i.names ty := by
  intro d hd i hi
  obtain ⟨hnested, hremoved, hunused⟩ := Visit.nested_of_gone hv hbefore hgone hother
  obtain ⟨u, hu, hkept, e, he, old, hold, later, rfl⟩ := Visit.exists_code hv hd hi
  obtain ⟨f, hpresent⟩ := (mem_visits hv).1.exists_mapCode htypes hty hbefore
  let g := v.redirect resolver
  have hcode : g old ∈ (e.mapCode g).code := by
    rw [MethodDef.mapCode_code]
    exact Array.mem_map_of_mem hold
  have hchecked : ¬ (g old).names ((ty.mapCode f).mapCode g) :=
    not_names_of_outsideReference? hunused (u := u.mapCode g) (List.mem_map_of_mem hu)
      (by simpa [← hremoved] using hkept) (List.mem_map_of_mem he) hcode
      (List.mem_map_of_mem hpresent) (by simpa using hnested)
  rw [Instruction.names_mapCode, Instruction.names_mapCode] at hchecked
  exact not_names_redirectAll (hown ty hty)
    (fun d hd => htable d (List.mem_flatMap.2 ⟨ty, hty, hd⟩)) hchecked

/-- The type that is nested in the proxy of `gatewayModule`. -/
def gatewayWorker : TypeDef where
  token := ⟨0x02000002⟩
  name := "Worker"
  enclosing := some ⟨0x02000001⟩
  methods := [⟨⟨0x06000004⟩, "Write", 0x10, ⟨false, .void, []⟩, none⟩]

/-- The nested type goes with its proxy, and nothing names it any more. -/
theorem not_names_gatewayWorker :
    let m := gatewayModule "Program"
    ∃ v ∈ met (resolveWith []) true m,
      gatewayWorker.token ∈ v.module.types.map TypeDef.token ∧
      gatewayWorker.token ∉
        (process (resolveWith []) true v.module v.proxy).module.types.map TypeDef.token ∧
      gatewayWorker.token ≠ v.proxy.typeToken ∧
      ∀ d ∈ (run (resolveWith []) true m).methods, ∀ i ∈ d.code, ¬ i.names gatewayWorker := by
  intro m
  have hgoes : ∃ v ∈ met (resolveWith []) true m,
      gatewayWorker.token ∈ v.module.types.map TypeDef.token ∧
      gatewayWorker.token ∉
        (process (resolveWith []) true v.module v.proxy).module.types.map TypeDef.token ∧
      gatewayWorker.token ≠ v.proxy.typeToken := by
    decide +kernel
  obtain ⟨v, hv, hbefore, hgone, hother⟩ := hgoes
  exact ⟨v, hv, hbefore, hgone, hother,
    not_names_nested (by decide) (by decide) (by decide) hv (by decide) hbefore hgone hother⟩

end Proxy

end Unmask
