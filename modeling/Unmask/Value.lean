import Unmask.Error
import Unmask.IL.Instruction

/-!
# Runtime values

What a live method takes and returns. Unboxing is strict: a value is only ever read as its own
kind.
-/

namespace Unmask

inductive Value where
  | null
  | int32 (v : Int32)
  | int64 (v : Int64)
  | float32 (bits : UInt32)
  | float64 (bits : UInt64)
  | string (s : UserString)
  deriving DecidableEq, Repr, Inhabited

namespace Value

def typeName : Value → String
  | .null => "null"
  | .int32 _ => "int32"
  | .int64 _ => "int64"
  | .float32 _ => "float32"
  | .float64 _ => "float64"
  | .string _ => "string"

def display : Value → String
  | .null => "null"
  | .int32 v => (Immediate.int32 v).display
  | .int64 v => (Immediate.int64 v).display
  | .float32 bits => (Immediate.float32 bits).display
  | .float64 bits => (Immediate.float64 bits).display
  | .string s => s.describe

def toInt32 : Value → Except Error Int32
  | .int32 v => .ok v
  | v => .error (.unexpectedValue "int32" v.typeName)

def toInt64 : Value → Except Error Int64
  | .int64 v => .ok v
  | v => .error (.unexpectedValue "int64" v.typeName)

def toFloat32 : Value → Except Error UInt32
  | .float32 bits => .ok bits
  | v => .error (.unexpectedValue "float32" v.typeName)

def toFloat64 : Value → Except Error UInt64
  | .float64 bits => .ok bits
  | v => .error (.unexpectedValue "float64" v.typeName)

/-- The string of a value; a null reference is not one. -/
def toUserString : Value → Except Error UserString
  | .string s => .ok s
  | v => .error (.unexpectedValue "string" v.typeName)

end Value

end Unmask
