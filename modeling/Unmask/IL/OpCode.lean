import Unmask.Text.Display

/-!
# Opcodes

An opcode is one number: the byte itself, or for the two-byte opcodes the escape byte `0xFE` in the
high half. The table lists every opcode with its mnemonic; other values may still stand in a body.
-/

namespace Unmask

structure OpCode where
  val : UInt16
  deriving DecidableEq, Repr, Inhabited

namespace OpCode

def nop : OpCode := ⟨0x00⟩
def ldnull : OpCode := ⟨0x14⟩
def ldcI4M1 : OpCode := ⟨0x15⟩
def ldcI4Zero : OpCode := ⟨0x16⟩
def ldcI4Eight : OpCode := ⟨0x1E⟩
def ldcI4 : OpCode := ⟨0x20⟩
def ldcI8 : OpCode := ⟨0x21⟩
def ldcR4 : OpCode := ⟨0x22⟩
def ldcR8 : OpCode := ⟨0x23⟩
def call : OpCode := ⟨0x28⟩
def callvirt : OpCode := ⟨0x6F⟩
def ldstr : OpCode := ⟨0x72⟩
def newobj : OpCode := ⟨0x73⟩
def unaligned : OpCode := ⟨0xFE12⟩
def volatile : OpCode := ⟨0xFE13⟩
def tail : OpCode := ⟨0xFE14⟩
def constrained : OpCode := ⟨0xFE16⟩
def readonly : OpCode := ⟨0xFE1E⟩

/-- Every defined opcode with its mnemonic, in encoding order. -/
def table : List (OpCode × String) :=
  [(⟨0x0000⟩, "nop"), (⟨0x0001⟩, "break"), (⟨0x0002⟩, "ldarg.0"), (⟨0x0003⟩, "ldarg.1"),
   (⟨0x0004⟩, "ldarg.2"), (⟨0x0005⟩, "ldarg.3"), (⟨0x0006⟩, "ldloc.0"), (⟨0x0007⟩, "ldloc.1"),
   (⟨0x0008⟩, "ldloc.2"), (⟨0x0009⟩, "ldloc.3"), (⟨0x000A⟩, "stloc.0"), (⟨0x000B⟩, "stloc.1"),
   (⟨0x000C⟩, "stloc.2"), (⟨0x000D⟩, "stloc.3"), (⟨0x000E⟩, "ldarg.s"), (⟨0x000F⟩, "ldarga.s"),
   (⟨0x0010⟩, "starg.s"), (⟨0x0011⟩, "ldloc.s"), (⟨0x0012⟩, "ldloca.s"), (⟨0x0013⟩, "stloc.s"),
   (⟨0x0014⟩, "ldnull"), (⟨0x0015⟩, "ldc.i4.m1"), (⟨0x0016⟩, "ldc.i4.0"), (⟨0x0017⟩, "ldc.i4.1"),
   (⟨0x0018⟩, "ldc.i4.2"), (⟨0x0019⟩, "ldc.i4.3"), (⟨0x001A⟩, "ldc.i4.4"), (⟨0x001B⟩, "ldc.i4.5"),
   (⟨0x001C⟩, "ldc.i4.6"), (⟨0x001D⟩, "ldc.i4.7"), (⟨0x001E⟩, "ldc.i4.8"), (⟨0x001F⟩, "ldc.i4.s"),
   (⟨0x0020⟩, "ldc.i4"), (⟨0x0021⟩, "ldc.i8"), (⟨0x0022⟩, "ldc.r4"), (⟨0x0023⟩, "ldc.r8"),
   (⟨0x0025⟩, "dup"), (⟨0x0026⟩, "pop"), (⟨0x0027⟩, "jmp"), (⟨0x0028⟩, "call"),
   (⟨0x0029⟩, "calli"), (⟨0x002A⟩, "ret"), (⟨0x002B⟩, "br.s"), (⟨0x002C⟩, "brfalse.s"),
   (⟨0x002D⟩, "brtrue.s"), (⟨0x002E⟩, "beq.s"), (⟨0x002F⟩, "bge.s"), (⟨0x0030⟩, "bgt.s"),
   (⟨0x0031⟩, "ble.s"), (⟨0x0032⟩, "blt.s"), (⟨0x0033⟩, "bne.un.s"), (⟨0x0034⟩, "bge.un.s"),
   (⟨0x0035⟩, "bgt.un.s"), (⟨0x0036⟩, "ble.un.s"), (⟨0x0037⟩, "blt.un.s"), (⟨0x0038⟩, "br"),
   (⟨0x0039⟩, "brfalse"), (⟨0x003A⟩, "brtrue"), (⟨0x003B⟩, "beq"), (⟨0x003C⟩, "bge"),
   (⟨0x003D⟩, "bgt"), (⟨0x003E⟩, "ble"), (⟨0x003F⟩, "blt"), (⟨0x0040⟩, "bne.un"),
   (⟨0x0041⟩, "bge.un"), (⟨0x0042⟩, "bgt.un"), (⟨0x0043⟩, "ble.un"), (⟨0x0044⟩, "blt.un"),
   (⟨0x0045⟩, "switch"), (⟨0x0046⟩, "ldind.i1"), (⟨0x0047⟩, "ldind.u1"), (⟨0x0048⟩, "ldind.i2"),
   (⟨0x0049⟩, "ldind.u2"), (⟨0x004A⟩, "ldind.i4"), (⟨0x004B⟩, "ldind.u4"), (⟨0x004C⟩, "ldind.i8"),
   (⟨0x004D⟩, "ldind.i"), (⟨0x004E⟩, "ldind.r4"), (⟨0x004F⟩, "ldind.r8"), (⟨0x0050⟩, "ldind.ref"),
   (⟨0x0051⟩, "stind.ref"), (⟨0x0052⟩, "stind.i1"), (⟨0x0053⟩, "stind.i2"),
   (⟨0x0054⟩, "stind.i4"), (⟨0x0055⟩, "stind.i8"), (⟨0x0056⟩, "stind.r4"), (⟨0x0057⟩, "stind.r8"),
   (⟨0x0058⟩, "add"), (⟨0x0059⟩, "sub"), (⟨0x005A⟩, "mul"), (⟨0x005B⟩, "div"),
   (⟨0x005C⟩, "div.un"), (⟨0x005D⟩, "rem"), (⟨0x005E⟩, "rem.un"), (⟨0x005F⟩, "and"),
   (⟨0x0060⟩, "or"), (⟨0x0061⟩, "xor"), (⟨0x0062⟩, "shl"), (⟨0x0063⟩, "shr"),
   (⟨0x0064⟩, "shr.un"), (⟨0x0065⟩, "neg"), (⟨0x0066⟩, "not"), (⟨0x0067⟩, "conv.i1"),
   (⟨0x0068⟩, "conv.i2"), (⟨0x0069⟩, "conv.i4"), (⟨0x006A⟩, "conv.i8"), (⟨0x006B⟩, "conv.r4"),
   (⟨0x006C⟩, "conv.r8"), (⟨0x006D⟩, "conv.u4"), (⟨0x006E⟩, "conv.u8"), (⟨0x006F⟩, "callvirt"),
   (⟨0x0070⟩, "cpobj"), (⟨0x0071⟩, "ldobj"), (⟨0x0072⟩, "ldstr"), (⟨0x0073⟩, "newobj"),
   (⟨0x0074⟩, "castclass"), (⟨0x0075⟩, "isinst"), (⟨0x0076⟩, "conv.r.un"), (⟨0x0079⟩, "unbox"),
   (⟨0x007A⟩, "throw"), (⟨0x007B⟩, "ldfld"), (⟨0x007C⟩, "ldflda"), (⟨0x007D⟩, "stfld"),
   (⟨0x007E⟩, "ldsfld"), (⟨0x007F⟩, "ldsflda"), (⟨0x0080⟩, "stsfld"), (⟨0x0081⟩, "stobj"),
   (⟨0x0082⟩, "conv.ovf.i1.un"), (⟨0x0083⟩, "conv.ovf.i2.un"), (⟨0x0084⟩, "conv.ovf.i4.un"),
   (⟨0x0085⟩, "conv.ovf.i8.un"), (⟨0x0086⟩, "conv.ovf.u1.un"), (⟨0x0087⟩, "conv.ovf.u2.un"),
   (⟨0x0088⟩, "conv.ovf.u4.un"), (⟨0x0089⟩, "conv.ovf.u8.un"), (⟨0x008A⟩, "conv.ovf.i.un"),
   (⟨0x008B⟩, "conv.ovf.u.un"), (⟨0x008C⟩, "box"), (⟨0x008D⟩, "newarr"), (⟨0x008E⟩, "ldlen"),
   (⟨0x008F⟩, "ldelema"), (⟨0x0090⟩, "ldelem.i1"), (⟨0x0091⟩, "ldelem.u1"),
   (⟨0x0092⟩, "ldelem.i2"), (⟨0x0093⟩, "ldelem.u2"), (⟨0x0094⟩, "ldelem.i4"),
   (⟨0x0095⟩, "ldelem.u4"), (⟨0x0096⟩, "ldelem.i8"), (⟨0x0097⟩, "ldelem.i"),
   (⟨0x0098⟩, "ldelem.r4"), (⟨0x0099⟩, "ldelem.r8"), (⟨0x009A⟩, "ldelem.ref"),
   (⟨0x009B⟩, "stelem.i"), (⟨0x009C⟩, "stelem.i1"), (⟨0x009D⟩, "stelem.i2"),
   (⟨0x009E⟩, "stelem.i4"), (⟨0x009F⟩, "stelem.i8"), (⟨0x00A0⟩, "stelem.r4"),
   (⟨0x00A1⟩, "stelem.r8"), (⟨0x00A2⟩, "stelem.ref"), (⟨0x00A3⟩, "ldelem"), (⟨0x00A4⟩, "stelem"),
   (⟨0x00A5⟩, "unbox.any"), (⟨0x00B3⟩, "conv.ovf.i1"), (⟨0x00B4⟩, "conv.ovf.u1"),
   (⟨0x00B5⟩, "conv.ovf.i2"), (⟨0x00B6⟩, "conv.ovf.u2"), (⟨0x00B7⟩, "conv.ovf.i4"),
   (⟨0x00B8⟩, "conv.ovf.u4"), (⟨0x00B9⟩, "conv.ovf.i8"), (⟨0x00BA⟩, "conv.ovf.u8"),
   (⟨0x00C2⟩, "refanyval"), (⟨0x00C3⟩, "ckfinite"), (⟨0x00C6⟩, "mkrefany"), (⟨0x00D0⟩, "ldtoken"),
   (⟨0x00D1⟩, "conv.u2"), (⟨0x00D2⟩, "conv.u1"), (⟨0x00D3⟩, "conv.i"), (⟨0x00D4⟩, "conv.ovf.i"),
   (⟨0x00D5⟩, "conv.ovf.u"), (⟨0x00D6⟩, "add.ovf"), (⟨0x00D7⟩, "add.ovf.un"),
   (⟨0x00D8⟩, "mul.ovf"), (⟨0x00D9⟩, "mul.ovf.un"), (⟨0x00DA⟩, "sub.ovf"),
   (⟨0x00DB⟩, "sub.ovf.un"), (⟨0x00DC⟩, "endfinally"), (⟨0x00DD⟩, "leave"), (⟨0x00DE⟩, "leave.s"),
   (⟨0x00DF⟩, "stind.i"), (⟨0x00E0⟩, "conv.u"), (⟨0xFE00⟩, "arglist"), (⟨0xFE01⟩, "ceq"),
   (⟨0xFE02⟩, "cgt"), (⟨0xFE03⟩, "cgt.un"), (⟨0xFE04⟩, "clt"), (⟨0xFE05⟩, "clt.un"),
   (⟨0xFE06⟩, "ldftn"), (⟨0xFE07⟩, "ldvirtftn"), (⟨0xFE09⟩, "ldarg"), (⟨0xFE0A⟩, "ldarga"),
   (⟨0xFE0B⟩, "starg"), (⟨0xFE0C⟩, "ldloc"), (⟨0xFE0D⟩, "ldloca"), (⟨0xFE0E⟩, "stloc"),
   (⟨0xFE0F⟩, "localloc"), (⟨0xFE11⟩, "endfilter"), (⟨0xFE12⟩, "unaligned."),
   (⟨0xFE13⟩, "volatile."), (⟨0xFE14⟩, "tail."), (⟨0xFE15⟩, "initobj"),
   (⟨0xFE16⟩, "constrained."), (⟨0xFE17⟩, "cpblk"), (⟨0xFE18⟩, "initblk"), (⟨0xFE1A⟩, "rethrow"),
   (⟨0xFE1C⟩, "sizeof"), (⟨0xFE1D⟩, "refanytype"), (⟨0xFE1E⟩, "readonly.")]

def mnemonic? (op : OpCode) : Option String := table.lookup op

def ofMnemonic? (name : String) : Option OpCode :=
  (table.find? fun entry => entry.2 == name).map (·.1)

/-- The first byte of every two-byte opcode. -/
def escapeByte : UInt8 := 0xFE

def isTwoByte (op : OpCode) : Bool := (op.val >>> 8).toUInt8 = escapeByte

def isCall (op : OpCode) : Bool := op = call || op = callvirt

/-- Whether `op` loads an `int32` constant, in any of the encodings. -/
def isLdcI4 (op : OpCode) : Bool := ldcI4M1.val ≤ op.val && op.val ≤ ldcI4.val

/-- The constant of the encodings without an operand, from -1 to 8. -/
def implicitI4? (op : OpCode) : Option Int32 :=
  if ldcI4M1.val ≤ op.val ∧ op.val ≤ ldcI4Eight.val then
    some (Int32.ofInt ((op.val.toNat : Int) - (ldcI4Zero.val.toNat : Int)))
  else none

/-- Whether `op` modifies the instruction after it. -/
def isModifier (op : OpCode) : Bool :=
  op = unaligned || op = volatile || op = tail || op = constrained || op = readonly

def display (op : OpCode) : String :=
  match op.mnemonic? with
  | some name => name
  | none => "<0x" ++ Text.hexUpper 4 op.val.toNat ++ ">"

def describe (op : OpCode) : String :=
  let code := "0x" ++ Text.hexUpper 4 op.val.toNat
  match op.mnemonic? with
  | some name => "OpCode(" ++ name ++ ", " ++ code ++ ")"
  | none => "OpCode(" ++ code ++ ")"

end OpCode

end Unmask
