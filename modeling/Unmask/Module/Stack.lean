import Unmask.Module.Basic

/-!
# Stack effects of calls

A call takes its arguments, and `this` if the signature has one, and leaves the result unless there
is none. A construction takes the constructor's arguments and leaves the new object. Counts that do
not fit a byte have no effect assigned.
-/

namespace Unmask.Module

def byte? (n : Nat) : Option UInt8 := if n < 256 then some (UInt8.ofNat n) else none

def callEffect? (m : Module) (i : Instruction) : Option StackEffect :=
  (i.method?.bind m.methodSignature?).bind fun s =>
    if i.isCall then
      (byte? (s.params.length + if s.hasThis then 1 else 0)).map fun pops =>
        ⟨pops, if s.returnType.isVoid then 0 else 1⟩
    else if i.opcode = .newobj then
      (byte? s.params.length).map fun pops => ⟨pops, 1⟩
    else none

def stackEffect? (m : Module) (i : Instruction) : Option StackEffect :=
  i.fixedEffect?.or (m.callEffect? i)

end Unmask.Module
