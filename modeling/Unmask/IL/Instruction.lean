import Unmask.Decimal.Shortest
import Unmask.IL.OpCode
import Unmask.IL.Token
import Unmask.IL.UserString

/-!
# Instructions

An instruction is an opcode with an operand. Floating point immediates are kept as bit patterns, so
that equality of instructions is equality of bits. Branch targets are slot indices.
-/

namespace Unmask

inductive Immediate where
  | int32 (v : Int32)
  | int64 (v : Int64)
  | float32 (bits : UInt32)
  | float64 (bits : UInt64)
  deriving DecidableEq, Repr, Inhabited

def Immediate.display : Immediate → String
  | .int32 v => toString v.toInt
  | .int64 v => toString v.toInt
  | .float32 bits => Decimal.showBits Decimal.binary32 bits.toNat
  | .float64 bits => Decimal.showBits Decimal.binary64 bits.toNat

inductive Operand where
  | none
  | immediate (v : Immediate)
  | string (s : UserString)
  | method (t : Token)
  | token (t : Token)
  | target (slot : UInt32)
  | switch (slots : List UInt32)
  | local (index : UInt16)
  | argument (index : UInt16)
  deriving DecidableEq, Repr, Inhabited

def Operand.display? : Operand → Option String
  | .none => Option.none
  | .immediate v => some v.display
  | .string s => some s.describe
  | .method t | .token t => some ("0x" ++ Text.hexUpper 8 t.val.toNat)
  | .target slot => some ("IL_" ++ Text.padZero 4 (toString slot.toNat))
  | .switch slots => some ("switch(" ++ toString slots.length ++ ")")
  | .local index => some ("V_" ++ toString index.toNat)
  | .argument index => some ("A_" ++ toString index.toNat)

/-- How many values an instruction takes from the evaluation stack and how many it leaves there.
The net effect is a signed byte. -/
structure StackEffect where
  pops : UInt8
  pushes : UInt8
  deriving DecidableEq, Repr, Inhabited

def StackEffect.net (e : StackEffect) : Int8 := e.pushes.toInt8 - e.pops.toInt8

structure Instruction where
  opcode : OpCode
  operand : Operand := .none
  deriving DecidableEq, Repr, Inhabited

namespace Instruction

def nop : Instruction := { opcode := .nop }

def call (t : Token) : Instruction := ⟨.call, .method t⟩

def isCall (i : Instruction) : Bool := i.opcode.isCall

def method? (i : Instruction) : Option Token :=
  match i.operand with
  | .method t => some t
  | _ => none

/-- The token the instruction names, be it a method or anything else. -/
def token? (i : Instruction) : Option Token :=
  match i.operand with
  | .method t | .token t => some t
  | _ => none

def int32? (i : Instruction) : Option Int32 :=
  match i.operand with
  | .immediate (.int32 v) => some v
  | _ => none

/-- Whether the instruction is a direct or virtual call of `t`. -/
def calls (i : Instruction) (t : Token) : Bool := i.isCall && i.method? = some t

/-- The `int32` constant the instruction loads, in whatever encoding. -/
def constant? (i : Instruction) : Option Int32 :=
  match i.opcode.implicitI4? with
  | some v => some v
  | none => if i.opcode.isLdcI4 then i.int32? else none

/-- The stack effect of the instructions for which the opcode alone tells it. -/
def fixedEffect? (i : Instruction) : Option StackEffect :=
  if i.opcode = .nop then some ⟨0, 0⟩
  else if i.opcode = .ldstr || i.opcode = .ldcI8 || i.opcode = .ldcR4 || i.opcode = .ldcR8 ||
      i.opcode = .ldnull || i.opcode.isLdcI4 then
    some ⟨0, 1⟩
  else none

def display (i : Instruction) : String :=
  match i.operand.display? with
  | some operand => i.opcode.display ++ " " ++ operand
  | none => i.opcode.display

end Instruction

end Unmask
