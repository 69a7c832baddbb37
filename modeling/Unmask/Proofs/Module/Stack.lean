import Unmask.Module.Stack

/-!
# Stack effects without bounds

The net effect of a call as an integer, from its signature and its opcode alone. The effect kept in
bytes is that integer reduced: it is there if the values taken fit a byte, and two of them agree if
the integers agree modulo 256.
-/

namespace Unmask

namespace MethodSignature

/-- How many values a call by this opcode takes from the stack. A construction gets its `this` from
elsewhere. -/
def taken (s : MethodSignature) (op : OpCode) : Nat :=
  s.params.length + if op ≠ .newobj ∧ s.hasThis then 1 else 0

/-- How many values a call by this opcode leaves on the stack: the result or the new object. -/
def left (s : MethodSignature) (op : OpCode) : Nat :=
  if op = .newobj ∨ ¬ s.returnType.isVoid then 1 else 0

def netEffect (s : MethodSignature) (op : OpCode) : Int := (s.left op : Int) - s.taken op

theorem left_le_one (s : MethodSignature) (op : OpCode) : s.left op ≤ 1 := by
  unfold left
  split <;> omega

end MethodSignature

theorem OpCode.ne_newobj_of_isCall {op : OpCode} (h : op.isCall) : op ≠ .newobj := by
  rintro rfl
  exact absurd h (by decide)

namespace MethodSignature

/-- Both opcodes of a call have the same effect. -/
theorem taken_eq_of_isCall (s : MethodSignature) {op : OpCode} (h : op.isCall) :
    s.taken op = s.taken .call := by
  have hcall : OpCode.call ≠ .newobj := by decide
  simp [taken, OpCode.ne_newobj_of_isCall h, hcall]

theorem left_eq_of_isCall (s : MethodSignature) {op : OpCode} (h : op.isCall) :
    s.left op = s.left .call := by
  have hcall : OpCode.call ≠ .newobj := by decide
  simp [left, OpCode.ne_newobj_of_isCall h, hcall]

end MethodSignature

/-- Net effects in a signed byte agree if the effects agree modulo 256. -/
theorem StackEffect.net_eq_iff {a b : StackEffect} : a.net = b.net ↔
    (a.pushes.toNat + b.pops.toNat) % 256 = (b.pushes.toNat + a.pops.toNat) % 256 := by
  have hbyte : a.net = b.net ↔ a.pushes - a.pops = b.pushes - b.pops := by
    unfold net
    rw [← UInt8.toInt8_sub, ← UInt8.toInt8_sub]
    exact ⟨fun h => congrArg Int8.toUInt8 h, fun h => congrArg UInt8.toInt8 h⟩
  have hpops := a.pops.toNat_lt
  have hpops' := b.pops.toNat_lt
  rw [hbyte, ← UInt8.toNat_inj, UInt8.toNat_sub, UInt8.toNat_sub]
  omega

namespace Module

variable {m : Module} {t : Token} {s : MethodSignature}

/-- The effect in bytes of calling a method whose signature is known. -/
theorem callEffect?_eq (hs : m.methodSignature? t = some s) {op : OpCode}
    (hop : op ∈ [OpCode.call, .callvirt, .newobj]) : m.callEffect? ⟨op, .method t⟩ =
      (byte? (s.taken op)).map fun pops => ⟨pops, UInt8.ofNat (s.left op)⟩ := by
  have hkind : ∀ op ∈ [OpCode.call, .callvirt, .newobj], op.isCall ∨ op = .newobj := by decide
  rcases hkind op hop with hcall | rfl
  · have hne := OpCode.ne_newobj_of_isCall hcall
    cases hvoid : s.returnType.isVoid with
    | false => simp [callEffect?, Instruction.method?, Instruction.isCall, hs, hcall, hne,
        MethodSignature.taken, MethodSignature.left, hvoid]
    | true => simp [callEffect?, Instruction.method?, Instruction.isCall, hs, hcall, hne,
        MethodSignature.taken, MethodSignature.left, hvoid]
  · have hcall : OpCode.newobj.isCall = false := by decide
    simp [callEffect?, Instruction.method?, Instruction.isCall, hs, hcall, MethodSignature.taken,
      MethodSignature.left]

/-- The effect depends on the signature and on whether the call makes an object. -/
theorem callEffect?_congr {m' : Module} (hs : m'.methodSignature? t = m.methodSignature? t)
    {op op' : OpCode} (hop' : op' ∈ [OpCode.call, .callvirt, .newobj])
    (hop : op ∈ [OpCode.call, .callvirt, .newobj]) (hnew : op' = .newobj ↔ op = .newobj) :
    m'.callEffect? ⟨op', .method t⟩ = m.callEffect? ⟨op, .method t⟩ := by
  cases hknown : m.methodSignature? t with
  | none => simp [callEffect?, Instruction.method?, hs, hknown]
  | some s =>
    rw [callEffect?_eq (hs.trans hknown) hop', callEffect?_eq hknown hop]
    simp only [MethodSignature.taken, MethodSignature.left, ne_eq, hnew]

theorem byte?_of_lt {n : Nat} (h : n < 256) : byte? n = some (UInt8.ofNat n) := if_pos h

theorem byte?_of_not_lt {n : Nat} (h : ¬ n < 256) : byte? n = none := if_neg h

end Module

end Unmask
