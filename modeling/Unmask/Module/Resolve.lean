import Unmask.Module.Nesting

/-!
# Resolving references

A member reference resolves to a method definition of the same class, name and signature. The
module itself is searched before the reference modules, types and methods in their order.
-/

namespace Unmask

structure ResolvedMethod where
  token : Token
  fullName : String
  isStatic : Bool
  isConstructor : Bool
  deriving DecidableEq, Repr, Inhabited

/-- Finds the definition a reference means, as seen from a module. -/
abbrev Resolver := Module → MemberRef → Option ResolvedMethod

namespace Module

/-- The methods of the types called `className`, each with its type. -/
def methodsOfClass (m : Module) (className : String) : List (TypeDef × MethodDef) :=
  (m.types.filter fun ty => m.fullName ty = className).flatMap fun ty =>
    ty.methods.map fun d => (ty, d)

def findDefinition? (m : Module) (r : MemberRef) (s : MethodSignature) : Option ResolvedMethod :=
  ((m.methodsOfClass r.className).find? fun (_, d) => d.name = r.name && d.signature = s).map
    fun (ty, d) =>
      { token := d.token
        fullName := m.fullName ty ++ "::" ++ d.name
        isStatic := d.isStatic
        isConstructor := d.isConstructor }

end Module

/-- Searches the module at hand, then the reference modules in order. A reference to a field does
not resolve. -/
def resolveWith (references : List Module) : Resolver := fun m r =>
  r.methodSignature?.bind fun s => (m :: references).findSome? fun c => c.findDefinition? r s

/-- The opcode that calls a method directly. -/
def ResolvedMethod.callKind (r : ResolvedMethod) : OpCode :=
  if r.isConstructor then .newobj else if r.isStatic then .call else .callvirt

end Unmask
