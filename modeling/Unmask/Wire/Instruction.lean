import Unmask.IL.Instruction
import Unmask.Json.Decode
import Unmask.Value

/-!
# Instructions and values on the wire

Tokens and opcodes are numbers, floating point immediates their bit patterns. Operands, immediates
and runtime values are tagged: an object with the tag and the content, or the two in an array. A
string is written as text when its units are well-formed, else as the units themselves.
-/

namespace Unmask

/-- A bare name, which may also be written as an object with that name and `null`. -/
def Json.name? : Json → Option String
  | .str name => some name
  | .obj [(name, .null)] => some name
  | _ => none

/-- Tag and content of a tagged value. In an array the tag is a plain text. -/
def Json.tagged? (tag content : String) : Json → Option (String × Option Json)
  | .obj fields => do
    let name ← (← fields.lookup tag).name?
    return (name, fields.lookup content)
  | .arr [.str name, j] => some (name, some j)
  | _ => none

def Json.tag (tag : String) (name : String) (content : String) (j : Json) : Json :=
  .obj [(tag, .str name), (content, j)]

/-- The content of a tag that has none. -/
def Json.isUnit : Option Json → Bool
  | none => true
  | some .null => true
  | some _ => false

namespace Token

def toJson (t : Token) : Json := .nat t.val.toNat

def ofJson? (j : Json) : Option Token := j.toUInt32?.map Token.mk

end Token

namespace OpCode

def toJson (op : OpCode) : Json := .nat op.val.toNat

def ofJson? (j : Json) : Option OpCode := j.toUInt16?.map OpCode.mk

end OpCode

namespace UserString

def toJson (s : UserString) : Json :=
  match s.toString? with
  | some text => .str text
  | none => .obj [("utf16", .arr (s.units.map fun u => .nat u.toNat))]

def ofJson? : Json → Option UserString
  | .str text => some (ofString text)
  | .obj fields =>
    (Json.required (Json.toList? Json.toUInt16?) (fields.lookup "utf16")).map UserString.mk
  | _ => none

end UserString

namespace Immediate

def toJson : Immediate → Json
  | .int32 v => .tag "type" "int32" "value" (.int v.toInt)
  | .int64 v => .tag "type" "int64" "value" (.int v.toInt)
  | .float32 bits => .tag "type" "float32" "value" (.nat bits.toNat)
  | .float64 bits => .tag "type" "float64" "value" (.nat bits.toNat)

def ofJson? (j : Json) : Option Immediate :=
  match j.tagged? "type" "value" with
  | some ("int32", some v) => v.toInt32?.map .int32
  | some ("int64", some v) => v.toInt64?.map .int64
  | some ("float32", some v) => v.toUInt32?.map .float32
  | some ("float64", some v) => v.toUInt64?.map .float64
  | _ => none

end Immediate

namespace Operand

def toJson : Operand → Json
  | .none => .obj [("kind", .str "none")]
  | .immediate v => .tag "kind" "immediate" "value" v.toJson
  | .string s => .tag "kind" "string" "value" s.toJson
  | .method t => .tag "kind" "method" "value" t.toJson
  | .token t => .tag "kind" "token" "value" t.toJson
  | .target slot => .tag "kind" "target" "value" (.nat slot.toNat)
  | .switch slots => .tag "kind" "switch" "value" (.arr (slots.map fun s => .nat s.toNat))
  | .local index => .tag "kind" "local" "value" (.nat index.toNat)
  | .argument index => .tag "kind" "argument" "value" (.nat index.toNat)

def ofJson? (j : Json) : Option Operand :=
  match j.tagged? "kind" "value" with
  | some ("none", content) => if Json.isUnit content then some .none else Option.none
  | some ("immediate", some v) => (Immediate.ofJson? v).map .immediate
  | some ("string", some v) => (UserString.ofJson? v).map .string
  | some ("method", some v) => (Token.ofJson? v).map .method
  | some ("token", some v) => (Token.ofJson? v).map .token
  | some ("target", some v) => v.toUInt32?.map .target
  | some ("switch", some v) => (v.toList? Json.toUInt32?).map .switch
  | some ("local", some v) => v.toUInt16?.map .local
  | some ("argument", some v) => v.toUInt16?.map .argument
  | _ => Option.none

end Operand

namespace Instruction

def toJson (i : Instruction) : Json :=
  .obj [("opcode", i.opcode.toJson), ("operand", i.operand.toJson)]

def ofJson? (j : Json) : Option Instruction :=
  match j.record? ["opcode", "operand"] with
  | some [opcode, operand] => do
    let opcode ← Json.required OpCode.ofJson? opcode
    let operand ← Json.orDefault Operand.ofJson? .none operand
    return ⟨opcode, operand⟩
  | _ => none

end Instruction

namespace Value

def toJson : Value → Json
  | .null => .obj [("type", .str "null")]
  | .int32 v => .tag "type" "int32" "value" (.int v.toInt)
  | .int64 v => .tag "type" "int64" "value" (.int v.toInt)
  | .float32 bits => .tag "type" "float32" "value" (.nat bits.toNat)
  | .float64 bits => .tag "type" "float64" "value" (.nat bits.toNat)
  | .string s => .tag "type" "string" "value" s.toJson

def ofJson? (j : Json) : Option Value :=
  match j.tagged? "type" "value" with
  | some ("null", content) => if Json.isUnit content then some .null else none
  | some ("int32", some v) => v.toInt32?.map .int32
  | some ("int64", some v) => v.toInt64?.map .int64
  | some ("float32", some v) => v.toUInt32?.map .float32
  | some ("float64", some v) => v.toUInt64?.map .float64
  | some ("string", some v) => (UserString.ofJson? v).map .string
  | _ => none

end Value

end Unmask
