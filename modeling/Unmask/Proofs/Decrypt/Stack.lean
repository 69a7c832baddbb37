import Unmask.Proofs.Decrypt.Ledger
import Unmask.Proofs.Module.Stack

/-!
# The stack under decrypted calls

A constant load and a decrypt call together are replaced by a `nop` and a literal load. The literal
load leaves what the constant load left, so the net effect of the two slots stays exactly if the
call takes as many values as it leaves. Decrypt methods are told by what they take and return alone,
and not by being static: an instance method takes one value more, its `this`, which is left on the
stack when the call has gone.
-/

namespace Unmask

theorem Module.SameButBodies.stackEffect?_eq {m m' : Module} (h : m.SameButBodies m')
    (i : Instruction) : m'.stackEffect? i = m.stackEffect? i := by
  unfold Module.stackEffect? Module.callEffect?
  cases i.method? with
  | none => rfl
  | some t => simp only [Option.bind_some, h.methodSignature?_eq]

namespace Decrypt

variable {σ : Type} {m m' : Module}

/-- The net effect that the module assigns to slot `k` of a body, if it assigns one. -/
def netAt? (m : Module) (body : Array Instruction) (k : Nat) : Option Int :=
  (body[k]?.bind m.stackEffect?).map fun effect => effect.net.toInt

/-- The sum of the net effects of slot `n` and the one after it. -/
def netOfPair? (m : Module) (body : Array Instruction) (n : Nat) : Option Int :=
  (netAt? m body n).bind fun a => (netAt? m body (n + 1)).map (a + ·)

/-- Modules that differ in bodies only assign the same effects. -/
theorem netOfPair?_eq (h : m.SameButBodies m') (body : Array Instruction) (n : Nat) :
    netOfPair? m' body n = netOfPair? m body n := by
  simp only [netOfPair?, netAt?, funext h.stackEffect?_eq]

/-- A call of the method takes as many values as it leaves. -/
def Balanced (m : Module) (t : Token) : Prop :=
  ∃ s, m.methodSignature? t = some s ∧ s.taken .call = s.left .call

/-! ## The effects of the instructions concerned -/

theorem fixedEffect?_of_isLdcI4 {i : Instruction} (h : i.opcode.isLdcI4) :
    i.fixedEffect? = some ⟨0, 1⟩ := by
  have hnop : i.opcode ≠ .nop := by
    rintro hop
    rw [hop] at h
    exact absurd h (by decide)
  simp [Instruction.fixedEffect?, hnop, h]

theorem fixedEffect?_of_constant {i : Instruction} (h : i.constant?.isSome) :
    i.fixedEffect? = some ⟨0, 1⟩ := by
  refine fixedEffect?_of_isLdcI4 ?_
  unfold Instruction.constant? at h
  split at h
  · rename_i v hv
    unfold OpCode.implicitI4? at hv
    split at hv
    · rename_i hrange
      have hlast : OpCode.ldcI4Eight.val ≤ OpCode.ldcI4.val := by decide
      simp only [OpCode.isLdcI4, Bool.and_eq_true, decide_eq_true_eq]
      exact ⟨hrange.1, UInt16.le_trans hrange.2 hlast⟩
    · cases hv
  · split at h
    · assumption
    · cases h

theorem fixedEffect?_of_literal {kind : LiteralKind} {v : Value} {load : Instruction}
    (h : kind.literal v = .ok load) : load.fixedEffect? = some ⟨0, 1⟩ := by
  rw [Instruction.fixedEffect?, (LiteralKind.literal_eq_ok h).2]
  cases kind <;> decide

theorem stackEffect?_of_fixed {i : Instruction} {effect : StackEffect}
    (h : i.fixedEffect? = some effect) : m.stackEffect? i = some effect := by
  rw [Module.stackEffect?, h, Option.some_or]

theorem stackEffect?_call (t : Token) :
    m.stackEffect? (.call t) = m.callEffect? (.call t) := by
  have hfixed : (Instruction.call t).fixedEffect? = none := rfl
  rw [Module.stackEffect?, hfixed, Option.none_or]

theorem net_eq_zero_iff {pops pushes : Nat} (hpops : pops < 256) (hpushes : pushes < 256) :
    (StackEffect.mk (UInt8.ofNat pops) (UInt8.ofNat pushes)).net.toInt = 0 ↔ pops = pushes := by
  have hzero : (StackEffect.mk (UInt8.ofNat pops) (UInt8.ofNat pushes)).net.toInt = 0 ↔
      (StackEffect.mk (UInt8.ofNat pops) (UInt8.ofNat pushes)).net = (StackEffect.mk 0 0).net :=
    ⟨fun h => Int8.toInt_inj.1 h, fun h => congrArg Int8.toInt h⟩
  rw [hzero, StackEffect.net_eq_iff]
  simp only [UInt8.toNat_ofNat', UInt8.toNat_zero]
  omega

/-- The net effect of a call is zero exactly if it takes as many values as it leaves. -/
theorem net_call_eq_zero_iff (t : Token) :
    (m.stackEffect? (.call t)).map (fun effect => effect.net.toInt) = some 0 ↔ Balanced m t := by
  rw [stackEffect?_call]
  cases hs : m.methodSignature? t with
  | none =>
    have hnone : m.callEffect? (.call t) = none := by
      simp [Module.callEffect?, Instruction.method?, Instruction.call, hs]
    simp [hnone, Balanced, hs]
  | some s =>
    have heffect : m.callEffect? (.call t) = _ := Module.callEffect?_eq hs (by decide)
    have hbalanced : Balanced m t ↔ s.taken .call = s.left .call := by simp [Balanced, hs]
    have hleft := s.left_le_one .call
    rw [heffect, hbalanced]
    by_cases hfits : s.taken .call < 256
    · rw [Module.byte?_of_lt hfits, Option.map_some, Option.map_some, Option.some_inj]
      exact net_eq_zero_iff hfits (by omega)
    · rw [Module.byte?_of_not_lt hfits]
      simp only [Option.map_none, reduceCtorEq, false_iff]
      omega

/-- A decrypt method of the definition table is balanced exactly if it is static. -/
theorem balanced_iff_of_isMethodDef (hmethods : (m.methods.map MethodDef.token).Nodup)
    {c : DecryptMethod} (hc : c ∈ methodsFound m) (htable : c.token.isMethodDef) :
    Balanced m c.token ↔ ∀ d ∈ m.methods, d.token = c.token → ¬ d.signature.hasThis := by
  obtain ⟨d, hd, htoken, hunary⟩ := exists_unary hc
  obtain ⟨hreturn, hparams⟩ := MethodSignature.isUnary_iff.1 hunary
  have hs : m.methodSignature? c.token = some d.signature :=
    htoken ▸ Module.methodSignature?_of_mem hmethods hd (htoken ▸ htable)
  have hleft : d.signature.left .call = 1 := by
    rw [MethodSignature.left, hreturn]
    cases c.kind <;> rfl
  have htaken : d.signature.taken .call = 1 + if d.signature.hasThis then 1 else 0 := by
    rw [MethodSignature.taken, hparams]
    have hcall : OpCode.call ≠ .newobj := by decide
    simp [hcall]
  have hbalanced : Balanced m c.token ↔ ¬ d.signature.hasThis := by
    simp only [Balanced, hs, Option.some.injEq, exists_eq_left', hleft, htaken]
    split <;> simp [*]
  rw [hbalanced]
  constructor
  · intro h u hu hutoken
    rwa [List.inj_on_of_nodup_map hmethods hu hd (hutoken.trans htoken.symm)]
  · intro h
    exact h d hd htoken

/-! ## Rewritten sites -/

/-- Afterwards the sum is one, before it was the effect of the call and one more. -/
theorem netOfPair?_eq_iff {c : DecryptMethod} {body : Array Instruction} {n : Nat}
    {arg load : Instruction} {v : Value} (hslot : body[n + 1]? = some (.call c.token))
    (harg : body[n]? = some arg) (hconst : arg.constant?.isSome)
    (hload : c.kind.literal v = .ok load) :
    netOfPair? m body n =
        netOfPair? m ((body.setIfInBounds n .nop).setIfInBounds (n + 1) load) n ↔
      Balanced m c.token := by
  have hnone : (StackEffect.mk 0 0).net.toInt = 0 := by decide
  have hone : (StackEffect.mk 0 1).net.toInt = 1 := by decide
  have hafter : netOfPair? m ((body.setIfInBounds n .nop).setIfInBounds (n + 1) load) n =
      some 1 := by
    have hnop : m.stackEffect? .nop = some ⟨0, 0⟩ := stackEffect?_of_fixed rfl
    have hliteral : m.stackEffect? load = some ⟨0, 1⟩ :=
      stackEffect?_of_fixed (fixedEffect?_of_literal hload)
    simp only [netOfPair?, netAt?, getElem?_decrypt (Array.getElem?_eq_some_iff.1 hslot).1]
    simp [hnop, hliteral, hnone, hone]
  have hbefore : netOfPair? m body n =
      ((m.stackEffect? (.call c.token)).map fun effect => effect.net.toInt).map (1 + ·) := by
    have hconstant : m.stackEffect? arg = some ⟨0, 1⟩ :=
      stackEffect?_of_fixed (fixedEffect?_of_constant hconst)
    simp only [netOfPair?, netAt?, hslot, harg, Option.bind_some, hconstant, Option.map_some, hone]
  rw [hafter, hbefore, ← net_call_eq_zero_iff]
  cases (m.stackEffect? (.call c.token)).map fun effect => effect.net.toInt with
  | none => simp
  | some net =>
    rw [Option.map_some, Option.some_inj, Option.some_inj]
    omega

/-- A run changes bodies only, so every module on its way assigns the effects that the first one
does. A site that is rewritten there keeps the sum of the net effects of its two slots exactly if
the decrypt method takes as many values as it leaves, which for a method of the definition table
means that it is static. -/
theorem rewritten_netEffect_iff (host : Host σ) (data : ByteArray) (numeric : NumericOracle)
    {m : Module} (hmethods : (m.methods.map MethodDef.token).Nodup) (o : Oracle σ) :
    m.SameButBodies (run host data numeric m o).module ∧
      ∀ m', m.SameButBodies m' → ∀ c ∈ methodsFound m, ∀ live d scan i,
        let next := (patchSlot (patchSite host c live) d scan i).body
        next ≠ scan.body → ∃ n, i = n + 1 ∧
          (netOfPair? m' scan.body n = netOfPair? m' next n ↔ Balanced m c.token) ∧
          (c.token.isMethodDef → (Balanced m c.token ↔
            ∀ d ∈ m.methods, d.token = c.token → ¬ d.signature.hasThis)) := by
  refine ⟨(run_moved host data numeric hmethods o).1, ?_⟩
  intro m' hshape c hc live d scan i next hrewritten
  obtain ⟨es, -, houtcome, -⟩ := patchSlot_outcome host c live d scan i
  change SlotOutcome c d scan.body i next es at houtcome
  clear_value next
  cases houtcome with
  | passed | failed => exact absurd rfl hrewritten
  | @decrypted n arg load v hslot harg hconst hload message =>
    refine ⟨n, rfl, ?_, balanced_iff_of_isMethodDef hmethods hc⟩
    rw [netOfPair?_eq hshape, netOfPair?_eq hshape]
    exact netOfPair?_eq_iff hslot harg hconst hload

/-- The site of a static decrypt method keeps its sum. -/
theorem rewritten_netEffect_static :
    let m := numberModule #[⟨.ldcI4, .immediate (.int32 7)⟩, .call ⟨0x06000002⟩]
    let done := run numberHost.host .empty .typeMatched m { host := [] }
    done.module = numberModule #[.nop, ⟨.ldcI4, .immediate (.int32 8)⟩] ∧
      netOfPair? done.module #[⟨.ldcI4, .immediate (.int32 7)⟩, .call ⟨0x06000002⟩] 0 =
        netOfPair? done.module #[.nop, ⟨.ldcI4, .immediate (.int32 8)⟩] 0 := by
  intro m done
  have hmethods : (m.methods.map MethodDef.token).Nodup := by decide
  let get : DecryptMethod := ⟨.int32, ⟨0x06000002⟩, "Get"⟩
  let live : Live := ⟨0, "Numbers", "Get", ⟨0x06000002⟩⟩
  let before : Array Instruction := #[⟨.ldcI4, .immediate (.int32 7)⟩, .call ⟨0x06000002⟩]
  let main : MethodDef := ⟨⟨0x06000003⟩, "Main", 0x10, ⟨false, .void, []⟩, some before⟩
  obtain ⟨hshape, hsites⟩ := rewritten_netEffect_iff numberHost.host .empty .typeMatched hmethods
    { host := [] }
  have hafter : (patchSlot (patchSite numberHost.host get live) main ⟨before, ⟨⟨[], {}⟩, {}⟩, 0, []⟩
      1).body = #[.nop, ⟨.ldcI4, .immediate (.int32 8)⟩] := by decide +kernel
  obtain ⟨n, hn, hsum, hstatic⟩ := hsites done.module hshape get (by decide +kernel) live main
    ⟨before, ⟨⟨[], {}⟩, {}⟩, 0, []⟩ 1 (by rw [hafter]; decide)
  obtain rfl : n = 0 := (Nat.succ.inj hn).symm
  rw [hafter] at hsum
  exact ⟨by decide +kernel, hsum.2 ((hstatic (by decide)).2 (by decide))⟩

/-! ## An instance method -/

/-- The same program where the decrypt method is one of instances. -/
def instanceModule (main : Array Instruction) : Module :=
  let withThis (d : MethodDef) : MethodDef :=
    if d.token = ⟨0x06000002⟩ then { d with flags := 0, signature := ⟨true, .i4, [.i4]⟩ } else d
  let m := numberModule main
  { m with types := m.types.map fun ty => { ty with methods := ty.methods.map withThis } }

/-- The site of an instance method is rewritten all the same. Its two slots took one value, the
object, for the number they left; now they take nothing. -/
theorem netOfPair?_instance_differs :
    let m := instanceModule #[⟨.ldcI4, .immediate (.int32 7)⟩, .call ⟨0x06000002⟩]
    let done := run numberHost.host .empty .typeMatched m { host := [] }
    (m.methods.map MethodDef.token).Nodup ∧
      done.module = instanceModule #[.nop, ⟨.ldcI4, .immediate (.int32 8)⟩] ∧
      netOfPair? m #[⟨.ldcI4, .immediate (.int32 7)⟩, .call ⟨0x06000002⟩] 0 = some 0 ∧
      netOfPair? done.module #[.nop, ⟨.ldcI4, .immediate (.int32 8)⟩] 0 = some 1 := by
  decide +kernel

end Decrypt

end Unmask
