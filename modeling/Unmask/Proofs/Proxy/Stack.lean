import Unmask.Proofs.Module.Stack
import Unmask.Proofs.Proxy.Redirect

/-!
# The stack under redirected calls

A proxy is left alone if its effect on the stack is known to differ from that of its target. What is
compared are the effects in bytes, so two kinds of difference go unnoticed: calls that take more
than 255 values have no effect in bytes and are not compared at all, and the net effects 1 and -255
are the same signed byte.
-/

namespace Unmask

namespace Proxy

variable {resolver : Resolver} {removeTypes : Bool} {m : Module}

/-- The one difference that the comparison of bytes takes for none: 255 values taken and none left
against none taken and one left. -/
def Wraps (s : MethodSignature) (op : OpCode) (s' : MethodSignature) (op' : OpCode) : Prop :=
  s.taken op = 255 ∧ s.left op = 0 ∧ s'.taken op' = 0 ∧ s'.left op' = 1

/-- No mismatch is found exactly if a count is too large for a byte or the effects agree modulo
256. -/
theorem stackMismatch?_eq_none_iff {proxy : ProxyType} {target : ResolvedMethod}
    {before after : MethodSignature} (hbefore : m.methodSignature? proxy.entry = some before)
    (hafter : m.methodSignature? proxy.target = some after) :
    stackMismatch? m proxy target = none ↔
      (before.taken .call < 256 → after.taken target.callKind < 256 →
        (before.left .call + after.taken target.callKind) % 256 =
          (after.left target.callKind + before.taken .call) % 256) := by
  have hentry : m.callEffect? (.call proxy.entry) = _ := Module.callEffect?_eq hbefore (by decide)
  have htarget := Module.callEffect?_eq hafter (callKind_mem target)
  have hleft := before.left_le_one .call
  have hleft' := after.left_le_one target.callKind
  unfold stackMismatch?
  rw [hentry, htarget]
  by_cases hfits : before.taken .call < 256
  · by_cases hfits' : after.taken target.callKind < 256
    · simp only [Module.byte?_of_lt hfits, Module.byte?_of_lt hfits', Option.map_some, ite_not,
        ne_eq, StackEffect.net_eq_iff, UInt8.toNat_ofNat', hfits, hfits', true_imp_iff]
      split <;> simp <;> omega
    · simp [Module.byte?_of_not_lt hfits', hfits']
  · simp [Module.byte?_of_not_lt hfits, hfits]

/-- A call that is redirected keeps its net effect exactly if it was compared and is not the one
difference that bytes cannot tell, or was not compared and the counts balance all the same. -/
theorem Visit.netEffect_eq_iff {v : Visit} {target : ResolvedMethod}
    (hres : v.resolved? resolver = some target) {op : OpCode} (hop : op.isCall)
    {before after : MethodSignature}
    (hbefore : v.module.methodSignature? v.proxy.entry = some before)
    (hafter : v.module.methodSignature? v.proxy.target = some after) :
    before.netEffect op = after.netEffect target.callKind ↔
      if before.taken op < 256 ∧ after.taken target.callKind < 256 then
        ¬ Wraps before op after target.callKind ∧ ¬ Wraps after target.callKind before op
      else before.left op + after.taken target.callKind =
        after.left target.callKind + before.taken op := by
  have hcompared : stackMismatch? v.module v.proxy target = none := by
    simpa using (Option.filter_eq_some_iff.1 hres).2
  rw [stackMismatch?_eq_none_iff hbefore hafter, ← before.taken_eq_of_isCall hop,
    ← before.left_eq_of_isCall hop] at hcompared
  have hleft := before.left_le_one op
  have hleft' := after.left_le_one target.callKind
  unfold MethodSignature.netEffect Wraps
  split
  · rename_i hfits
    have hbytes := hcompared hfits.1 hfits.2
    omega
  · omega

/-- Every slot that a run redirects, from a call of an entry to a direct call, both of a known
signature, keeps its net effect on the stack unless the counts are too large for a byte and do not
balance, or one call takes 255 values and leaves none where the other takes none and leaves one. -/
theorem redirected_netEffect_iff (resolver : Resolver) (removeTypes : Bool) (m : Module) :
    ∀ v ∈ met resolver removeTypes m, ∀ target, v.resolved? resolver = some target →
      ∀ d ∈ v.module.methods, ∀ i ∈ d.code, i.calls v.proxy.entry →
      ∀ before after, v.module.methodSignature? v.proxy.entry = some before →
        v.module.methodSignature? v.proxy.target = some after →
      v.redirect resolver i = ⟨target.callKind, .method v.proxy.target⟩ ∧
      (before.netEffect i.opcode = after.netEffect target.callKind ↔
        if before.taken i.opcode < 256 ∧ after.taken target.callKind < 256 then
          ¬ Wraps before i.opcode after target.callKind ∧
            ¬ Wraps after target.callKind before i.opcode
        else before.left i.opcode + after.taken target.callKind =
          after.left target.callKind + before.taken i.opcode) := by
  intro v _ target hres d _ i _ hcalls before after hbefore hafter
  constructor
  · rw [Visit.redirect_eq hres]
    exact if_pos hcalls
  · exact Visit.netEffect_eq_iff hres (Instruction.calls_iff.1 hcalls).1 hbefore hafter

/-! ## Differences that go unnoticed -/

/-- A module with a proxy and a target of the given signatures, and a program that calls the
proxy. -/
def stackModule (entry target : MethodSignature) : Module where
  name := "app"
  types :=
    [{ token := ⟨0x02000001⟩
       name := "Widen"
       isDelegate := true
       methods :=
        [⟨⟨0x06000001⟩, ".cctor", 0x10, ⟨false, .void, []⟩, some
            #[⟨.ldcI4Zero, .none⟩, ⟨.ldcI4, .immediate (.int32 0x0A000001)⟩, ⟨.ldcI4Zero, .none⟩,
              .call ⟨0x0A000002⟩]⟩,
         ⟨⟨0x06000002⟩, "Invoke", 0, ⟨true, .void, []⟩, none⟩,
         ⟨⟨0x06000003⟩, "Enter", 0x10, entry, some #[.call ⟨0x06000002⟩]⟩] },
     { token := ⟨0x02000002⟩
       name := "Program"
       methods :=
        [⟨⟨0x06000004⟩, "Main", 0x10, ⟨false, .void, []⟩, some #[.call ⟨0x06000003⟩]⟩,
         ⟨⟨0x06000005⟩, "Write", if target.hasThis then 0 else 0x10, target, none⟩] }]
  memberRefs := [⟨⟨0x0A000001⟩, "Program", "Write", .method target⟩]

/-- A slot of the module that a run redirects from a call with the net effect `before` to one with
the net effect `after`. -/
def RedirectsSlot (m : Module) (before after : Int) : Prop :=
  ∃ v ∈ met (resolveWith []) true m, ∃ target ∈ v.resolved? (resolveWith []),
    ∃ d ∈ v.module.methods, ∃ i ∈ d.code, i.calls v.proxy.entry ∧
      (v.module.methodSignature? v.proxy.entry).map (·.netEffect i.opcode) = some before ∧
      (v.module.methodSignature? v.proxy.target).map (·.netEffect target.callKind) = some after

instance (m : Module) (before after : Int) : Decidable (RedirectsSlot m before after) :=
  inferInstanceAs (Decidable (∃ v ∈ _, _))

/-- A static method with the object as its first parameter stands for an instance method. -/
theorem redirected_netEffect_instance :
    let entry : MethodSignature := ⟨false, .i4, [.object, .string]⟩
    let target : MethodSignature := ⟨true, .i4, [.string]⟩
    ∃ v ∈ met (resolveWith []) true (stackModule entry target),
      ∃ r ∈ v.resolved? (resolveWith []), ∃ d ∈ v.module.methods, ∃ i ∈ d.code,
        i.calls v.proxy.entry ∧ v.module.methodSignature? v.proxy.entry = some entry ∧
        v.module.methodSignature? v.proxy.target = some target ∧
        entry.netEffect i.opcode = target.netEffect r.callKind := by
  intro entry target
  have hslot : ∃ v ∈ met (resolveWith []) true (stackModule entry target),
      ∃ r ∈ v.resolved? (resolveWith []), ∃ d ∈ v.module.methods, ∃ i ∈ d.code,
        i.calls v.proxy.entry ∧ v.module.methodSignature? v.proxy.entry = some entry ∧
        v.module.methodSignature? v.proxy.target = some target ∧
        entry.taken i.opcode = 2 ∧ target.taken r.callKind = 2 := by
    decide +kernel
  obtain ⟨v, hv, r, hr, d, hd, i, hi, hcalls, hbefore, hafter, htaken, htaken'⟩ := hslot
  refine ⟨v, hv, r, hr, d, hd, i, hi, hcalls, hbefore, hafter, ?_⟩
  refine ((redirected_netEffect_iff (resolveWith []) true (stackModule entry target) v hv r hr d hd
    i hi hcalls entry target hbefore hafter).2).2 ?_
  simp [Wraps, htaken, htaken']

/-- A call that leaves a value is redirected to one that takes 255, and a call that takes nothing to
one that takes 256. -/
theorem redirected_netEffect_differs :
    RedirectsSlot (stackModule ⟨false, .i4, []⟩ ⟨false, .void, List.replicate 255 .i4⟩) 1 (-255) ∧
      RedirectsSlot (stackModule ⟨false, .void, []⟩ ⟨false, .void, List.replicate 256 .i4⟩) 0
        (-256) := by
  decide +kernel

end Proxy

end Unmask
