import Unmask.Proofs.Proxy.Redirect

/-!
# References to deleted proxies

A proxy type is deleted without a look at who names it. Only the calls of its entry have been
redirected by then, so any other instruction that names the type or one of its methods, a direct
call of `Invoke` or a load of the type's token, outlives it. Nothing is left behind exactly if no
such instruction stood in a type that stays.
-/

namespace Unmask

/-- Whether the instruction names the type or a method that it declares. -/
def Instruction.names (i : Instruction) (ty : TypeDef) : Bool :=
  i.token?.any fun t => t = ty.token || t ∈ ty.methods.map MethodDef.token

/-- With distinct method tokens, a token is declared by one type only. -/
theorem Module.eq_of_declares {m : Module} (h : (m.methods.map MethodDef.token).Nodup)
    {ty ty' : TypeDef} (hty : ty ∈ m.types) (hty' : ty' ∈ m.types) {t : Token}
    (ht : t ∈ ty.methods.map MethodDef.token) (ht' : t ∈ ty'.methods.map MethodDef.token) :
    ty = ty' := by
  rw [methods, List.map_flatMap] at h
  exact eq_of_nodup_flatMap h hty hty' ht ht'

theorem Instruction.calls_unique {i : Instruction} {t u : Token} (ht : i.calls t)
    (hu : i.calls u) : t = u := by
  obtain ⟨-, hoperand⟩ := calls_iff.1 ht
  obtain ⟨-, hoperand'⟩ := calls_iff.1 hu
  exact Operand.method.inj (hoperand.symm.trans hoperand')

namespace Proxy

/-- `ty` is the type of a proxy that the pass replaces, and is gone when the pass has ended. -/
structure Deleted (resolver : Resolver) (m : Module) (ty : TypeDef) : Prop where
  declared : ty ∈ m.types
  replaced : ∃ v ∈ replaced resolver true m, v.proxy.typeToken = ty.token
  gone : ty.token ∉ (run resolver true m).types.map TypeDef.token

variable {resolver : Resolver} {removeTypes : Bool} {m : Module}

theorem mem_replaced {v : Visit} : v ∈ replaced resolver removeTypes m ↔
    v ∈ met resolver removeTypes m ∧ (v.resolved? resolver).isSome := by
  simp [replaced]

/-- With distinct tokens, an entry belongs to one proxy only. -/
theorem met_entry_unique (htypes : (m.types.map TypeDef.token).Nodup)
    (hmethods : (m.methods.map MethodDef.token).Nodup) {v w : Visit}
    (hv : v ∈ met resolver removeTypes m) (hw : w ∈ met resolver removeTypes m)
    (heq : v.proxy.entry = w.proxy.entry) : v = w := by
  obtain ⟨ty, hty, htoken, hentry⟩ := met_type hv
  obtain ⟨ty', hty', htoken', hentry'⟩ := met_type hw
  obtain rfl := Module.eq_of_declares hmethods hty hty' hentry (heq ▸ hentry')
  exact met_unique htypes hv hw (htoken.symm.trans htoken')

theorem token?_directCall (v : Visit) (target : ResolvedMethod) :
    (v.directCall target).token? = some v.proxy.target := rfl

/-- A direct call names a type only by the type's own token, as it names a reference. -/
theorem names_directCall {v : Visit} {target : ResolvedMethod}
    (h : v.resolved? resolver = some target) {ty : TypeDef}
    (htable : ∀ d ∈ ty.methods, d.token.isMethodDef) :
    (v.directCall target).names ty ↔ v.proxy.target = ty.token := by
  have hmember : v.proxy.target ∉ ty.methods.map MethodDef.token := by
    intro hmem
    obtain ⟨d, hd, hdtoken⟩ := List.mem_map.1 hmem
    exact Token.not_isMethodDef (Visit.target_isMemberRef h) (hdtoken ▸ htable d hd)
  simp only [Instruction.names, token?_directCall, hmember, Option.any_some, Bool.or_eq_true,
    decide_eq_true_eq, or_false]

/-- The instructions at the end of the pass are those of the types that stay, redirected. -/
theorem forall_code_run {P : Instruction → Prop} :
    (∀ d ∈ (run resolver removeTypes m).methods, ∀ i ∈ d.code, P i) ↔
      ∀ ty ∈ m.types, ty.token ∈ (run resolver removeTypes m).types.map TypeDef.token →
        ∀ d ∈ ty.methods, ∀ i ∈ d.code,
          P (redirectAll resolver (met resolver removeTypes m) i) := by
  rw [run_eq]
  generalize redirectAll resolver (met resolver removeTypes m) = f
  simp only [Module.mem_tokens_reduce, Module.methods, List.mem_flatMap, Module.mem_types_reduce]
  constructor
  · intro h ty hty hkept d hd i hi
    refine h (d.mapCode f) ⟨ty.mapCode f, ⟨ty, hty, hkept.2, rfl⟩, List.mem_map_of_mem hd⟩ (f i) ?_
    rw [MethodDef.mapCode_code]
    exact Array.mem_map_of_mem hi
  · rintro h _ ⟨_, ⟨ty, hty, hkept, rfl⟩, hmapped⟩ _ hi
    obtain ⟨d, hd, rfl⟩ := List.mem_map.1 hmapped
    rw [MethodDef.mapCode_code] at hi
    obtain ⟨i, hcode, rfl⟩ := Array.mem_map.1 hi
    exact h ty hty ⟨List.mem_map_of_mem hty, hkept⟩ d hd i hcode

/-- What takes the place of an instruction does not name a type exactly if the instruction named it
in no other way than as a call of a replaced entry, and no such call has the type's own token as its
target. -/
theorem not_names_redirectAll_iff (htypes : (m.types.map TypeDef.token).Nodup)
    (hmethods : (m.methods.map MethodDef.token).Nodup)
    (htable : ∀ d ∈ m.methods, d.token.isMethodDef) {ty : TypeDef} (hty : ty ∈ m.types)
    (i : Instruction) :
    ¬ (redirectAll resolver (met resolver removeTypes m) i).names ty ↔
      (i.names ty → ∃ v ∈ replaced resolver removeTypes m, i.calls v.proxy.entry) ∧
      ∀ v ∈ replaced resolver removeTypes m, i.calls v.proxy.entry →
        v.proxy.target ≠ ty.token := by
  have hentries : ∀ v ∈ met resolver removeTypes m, v.proxy.entry.isMethodDef := fun v hv =>
    met_entry_isMethodDef htable hv
  have hown : ∀ d ∈ ty.methods, d.token.isMethodDef := fun d hd =>
    htable d (List.mem_flatMap.2 ⟨ty, hty, hd⟩)
  rcases redirectAll_exact hentries i with ⟨hsame, hnone⟩ | ⟨v, hv, target, hres, hcall, hdirect⟩
  · have hno : ∀ v ∈ replaced resolver removeTypes m, ¬ i.calls v.proxy.entry := fun v hv =>
      hnone v (mem_replaced.1 hv).1 (mem_replaced.1 hv).2
    rw [hsame]
    constructor
    · exact fun h => ⟨fun hnames => absurd hnames h, fun v hv hcall => absurd hcall (hno v hv)⟩
    · rintro ⟨h, -⟩ hnames
      obtain ⟨v, hv, hcall⟩ := h hnames
      exact hno v hv hcall
  · have hmem : v ∈ replaced resolver removeTypes m := mem_replaced.2 ⟨hv, by simp [hres]⟩
    rw [hdirect, names_directCall hres hown]
    constructor
    · intro h
      refine ⟨fun _ => ⟨v, hmem, hcall⟩, fun w hw hcall' => ?_⟩
      obtain rfl := met_entry_unique htypes hmethods hv (mem_replaced.1 hw).1
        (Instruction.calls_unique hcall hcall')
      exact h
    · exact fun h => h.2 v hmem hcall

/-- The pass leaves a name of a deleted proxy in two cases only: an instruction names the proxy and
is no call of a replaced entry, or it is such a call and the reference that takes its place has the
token of the type. -/
theorem not_names_deleted_iff (htypes : (m.types.map TypeDef.token).Nodup)
    (hmethods : (m.methods.map MethodDef.token).Nodup)
    (htable : ∀ d ∈ m.methods, d.token.isMethodDef) {ty : TypeDef}
    (hdeleted : Deleted resolver m ty) :
    (∀ d ∈ (run resolver true m).methods, ∀ i ∈ d.code, ¬ i.names ty) ↔
      ∀ u ∈ m.types, u.token ∈ (run resolver true m).types.map TypeDef.token →
        ∀ d ∈ u.methods, ∀ i ∈ d.code,
          (i.names ty → ∃ v ∈ replaced resolver true m, i.calls v.proxy.entry) ∧
          ∀ v ∈ replaced resolver true m, i.calls v.proxy.entry → v.proxy.target ≠ ty.token := by
  rw [forall_code_run]
  simp only [not_names_redirectAll_iff htypes hmethods htable hdeleted.declared]

/-! ## A proxy that is invoked directly -/

/-- A delegate type with the shape of a proxy for the first member reference. -/
def logDelegate : TypeDef where
  token := ⟨0x02000001⟩
  name := "LogDelegate"
  isDelegate := true
  methods :=
    [⟨⟨0x06000001⟩, ".cctor", 0x10, ⟨false, .void, []⟩, some
        #[⟨.ldcI4Zero, .none⟩, ⟨.ldcI4, .immediate (.int32 0x0A000001)⟩, ⟨.ldcI4Zero, .none⟩,
          .call ⟨0x0A000002⟩]⟩,
     ⟨⟨0x06000002⟩, "Invoke", 0, ⟨true, .void, []⟩, none⟩,
     ⟨⟨0x06000003⟩, "Log", 0x10, ⟨false, .void, []⟩, some #[.call ⟨0x06000002⟩]⟩]

/-- A program with the given main method and the method that the proxy stands for. -/
def logModule (main : Array Instruction) : Module where
  name := "app"
  types :=
    [logDelegate,
     { token := ⟨0x02000002⟩
       name := "Program"
       methods :=
        [⟨⟨0x06000004⟩, "Main", 0x10, ⟨false, .void, []⟩, some main⟩,
         ⟨⟨0x06000005⟩, "Write", 0x10, ⟨false, .void, []⟩, none⟩] }]
  memberRefs := [⟨⟨0x0A000001⟩, "Program", "Write", .method ⟨false, .void, []⟩⟩]

/-- A module that only calls the entry is left without a name of the deleted proxy. -/
theorem not_names_logDelegate :
    Deleted (resolveWith []) (logModule #[.call ⟨0x06000003⟩]) logDelegate ∧
      ∀ d ∈ (run (resolveWith []) true (logModule #[.call ⟨0x06000003⟩])).methods,
        ∀ i ∈ d.code, ¬ i.names logDelegate := by
  have hdeleted : Deleted (resolveWith []) (logModule #[.call ⟨0x06000003⟩]) logDelegate :=
    ⟨by decide, by decide +kernel, by decide +kernel⟩
  refine ⟨hdeleted, ?_⟩
  refine (not_names_deleted_iff (by decide) (by decide) (by decide) hdeleted).2 ?_
  decide +kernel

/-- A module that also invokes the delegate itself keeps that call after the type has gone. -/
theorem names_logDelegate_survives :
    let m := logModule #[.call ⟨0x06000003⟩, ⟨.callvirt, .method ⟨0x06000002⟩⟩]
    (m.types.map TypeDef.token).Nodup ∧ (m.methods.map MethodDef.token).Nodup ∧
      (∀ d ∈ m.methods, d.token.isMethodDef) ∧ Deleted (resolveWith []) m logDelegate ∧
      ∃ d ∈ (run (resolveWith []) true m).methods, ∃ i ∈ d.code, i.names logDelegate := by
  refine ⟨by decide, by decide, by decide, ⟨by decide, by decide +kernel, by decide +kernel⟩, ?_⟩
  decide +kernel

end Proxy

end Unmask
