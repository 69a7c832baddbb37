import Unmask.Event.Basic
import Unmask.Module.Nesting
import Unmask.Value

/-!
# Decryption helpers

A helper is a type whose static initializer unpacks a resource, which shows in the names of the
members it calls. Its decrypt methods take an `int32` and return a literal, and are told apart by
the return type alone. A helper with a string method is used for strings only.
-/

namespace Unmask

/-- The kind of literal a decrypt method returns. -/
inductive LiteralKind where
  | string | int32 | int64 | float32 | float64
  deriving DecidableEq, Repr, Inhabited

namespace LiteralKind

def all : List LiteralKind := [.string, .int32, .int64, .float32, .float64]

def returnType : LiteralKind → TypeSignature
  | .string => .string
  | .int32 => .i4
  | .int64 => .i8
  | .float32 => .r4
  | .float64 => .r8

def label : LiteralKind → String
  | .string => "String"
  | .int32 => "Int"
  | .int64 => "Long"
  | .float32 => "Float"
  | .float64 => "Double"

def isFloat : LiteralKind → Bool
  | .float32 | .float64 => true
  | _ => false

def eventKind : LiteralKind → EventKind
  | .string => .stringDecrypted
  | _ => .constantDecrypted

/-- The instruction that loads a value; it has to be of this very kind. -/
def literal (kind : LiteralKind) (v : Value) : Except Error Instruction :=
  match kind with
  | .string => v.toUserString.map fun s => ⟨.ldstr, .string s⟩
  | .int32 => v.toInt32.map fun n => ⟨.ldcI4, .immediate (.int32 n)⟩
  | .int64 => v.toInt64.map fun n => ⟨.ldcI8, .immediate (.int64 n)⟩
  | .float32 => v.toFloat32.map fun bits => ⟨.ldcR4, .immediate (.float32 bits)⟩
  | .float64 => v.toFloat64.map fun bits => ⟨.ldcR8, .immediate (.float64 bits)⟩

end LiteralKind

structure DecryptMethod where
  kind : LiteralKind
  token : Token
  name : String
  deriving DecidableEq, Repr, Inhabited

structure DecryptHelper where
  typeToken : Token
  /-- The name by which the host knows the type. -/
  runtimeName : String
  methods : List DecryptMethod
  deriving DecidableEq, Repr, Inhabited

namespace DecryptHelper

/-- The members that the initializer of a helper calls. -/
def markers : List String :=
  ["FromBase64String", "GetExecutingAssembly", "GetManifestResourceStream"]

/-- The names of the referenced members that a body calls. -/
def calledMembers (m : Module) (code : Array Instruction) : List String :=
  code.toList.filterMap fun i =>
    if i.isCall then (i.method?.bind m.memberRef?).map MemberRef.name else none

/-- The first method of `ty` that takes an `int32` and returns a literal of this kind. -/
def methodOfKind? (ty : TypeDef) (kind : LiteralKind) : Option DecryptMethod :=
  (ty.methods.find? fun d => d.signature.isUnary kind.returnType .i4).map fun d =>
    ⟨kind, d.token, d.name⟩

/-- The decrypt methods of a type: the string method alone, or one of each numeric kind. -/
def decryptMethods (ty : TypeDef) : List DecryptMethod :=
  match methodOfKind? ty .string with
  | some d => [d]
  | none => (LiteralKind.all.drop 1).filterMap (methodOfKind? ty)

/-- Checks a type against the shape of a helper. -/
def detect (m : Module) (ty : TypeDef) : Option DecryptHelper × List LogRecord :=
  match ty.staticConstructor? with
  | none => (none, [])
  | some cctor =>
    let called := calledMembers m cctor.code
    if !markers.all called.contains then (none, [])
    else
      match decryptMethods ty with
      | [] => (none, [.debug (ty.name ++ ": helper without decrypt methods")])
      | methods => (some ⟨ty.token, m.reflectionName ty, methods⟩, [])

def methodFor? (h : DecryptHelper) (kind : LiteralKind) : Option DecryptMethod :=
  h.methods.find? fun d => d.kind = kind

end DecryptHelper

end Unmask
