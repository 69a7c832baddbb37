import Unmask.Error
import Unmask.IL.Instruction
import Unmask.IL.Signature

/-!
# Modules

A module is plain data: types with their methods in a flat list, where a nested type names the one
it stands in, and a table of references to members. Nothing is promised about the tokens: they may
repeat, dangle, or name types that enclose each other in a circle.

Look-ups take the first match in module order.
-/

namespace Unmask

structure MethodDef where
  token : Token
  name : String
  flags : UInt32
  signature : MethodSignature
  /-- Missing for methods without code of their own. -/
  body : Option (Array Instruction) := none
  deriving DecidableEq, Repr, Inhabited

structure TypeDef where
  token : Token
  namespaceName : String := ""
  name : String
  /-- The type this one is nested in. -/
  enclosing : Option Token := none
  flags : UInt32 := 0
  isDelegate : Bool := false
  methods : List MethodDef := []
  deriving DecidableEq, Repr, Inhabited

inductive MemberSignature where
  | method (signature : MethodSignature)
  | field (type : TypeSignature)
  deriving DecidableEq, Repr, Inhabited

structure MemberRef where
  token : Token
  /-- Full name of the declaring class. -/
  className : String
  name : String
  signature : MemberSignature
  deriving DecidableEq, Repr, Inhabited

structure Module where
  name : String := ""
  types : List TypeDef := []
  memberRefs : List MemberRef := []
  deriving DecidableEq, Repr, Inhabited

/-- The modifier flags of a method with their names, lowest bit first. -/
def modifierNames : List (UInt32 × String) :=
  [(0x0010, "STATIC"), (0x0020, "FINAL"), (0x0040, "VIRTUAL"), (0x0080, "HIDE_BY_SIG"),
   (0x0200, "STRICT"), (0x0400, "ABSTRACT"), (0x0800, "SPECIAL_NAME"), (0x1000, "RTSPECIAL_NAME"),
   (0x2000, "PINVOKE_IMPL"), (0x4000, "HAS_SECURITY"), (0x8000, "REQUIRE_SEC_OBJECT")]

namespace MethodDef

/-- The flags without the access bits, the layout bit, and the bits that mean nothing. -/
def modifiers (m : MethodDef) : UInt32 := m.flags &&& 0xFEF0

def modifierList (m : MethodDef) : List String :=
  (modifierNames.filter fun entry => m.flags &&& entry.1 ≠ 0).map (·.2)

def isStatic (m : MethodDef) : Bool := m.flags &&& 0x0010 ≠ 0

def isStaticConstructor (m : MethodDef) : Bool := m.name = ".cctor"

def isConstructor (m : MethodDef) : Bool := m.name = ".ctor" || m.isStaticConstructor

/-- The slots of the body, none for a method without one. -/
def code (m : MethodDef) : Array Instruction := m.body.getD #[]

end MethodDef

namespace TypeDef

def staticConstructor? (ty : TypeDef) : Option MethodDef :=
  ty.methods.find? MethodDef.isStaticConstructor

def methodNamed? (ty : TypeDef) (name : String) : Option MethodDef :=
  ty.methods.find? fun m => m.name = name

def isNested (ty : TypeDef) : Bool := ty.enclosing.isSome

end TypeDef

def MemberRef.methodSignature? (r : MemberRef) : Option MethodSignature :=
  match r.signature with
  | .method s => some s
  | .field _ => none

namespace Module

/-- All methods in module order. -/
def methods (m : Module) : List MethodDef := m.types.flatMap TypeDef.methods

/-- Only a token of the reference table names a reference. -/
def memberRef? (m : Module) (t : Token) : Option MemberRef :=
  if t.isMemberRef then m.memberRefs.find? fun r => r.token = t else none

def typeDef? (m : Module) (t : Token) : Option TypeDef :=
  m.types.find? fun ty => ty.token = t

/-- Only a token of the definition table names a method. -/
def method? (m : Module) (t : Token) : Option MethodDef :=
  if t.isMethodDef then m.methods.find? fun d => d.token = t else none

def declaringType? (m : Module) (t : Token) : Option TypeDef :=
  m.types.find? fun ty => ty.methods.any fun d => d.token = t

def methodSignature? (m : Module) (t : Token) : Option MethodSignature :=
  if t.isMethodDef then (m.method? t).map MethodDef.signature
  else (m.memberRef? t).bind MemberRef.methodSignature?

def instructionCount (m : Module) : Nat :=
  m.methods.foldr (fun d n => d.code.size + n) 0

end Module

end Unmask
