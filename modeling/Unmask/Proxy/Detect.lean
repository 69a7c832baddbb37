import Unmask.Event.Basic
import Unmask.Module.Basic

/-!
# Delegate proxies

A proxy is a delegate type that hides a call. Its static initializer starts by loading three
constants, the second of which is the token of the hidden target, and calling a routine with them.
Exactly one of its methods calls the delegate's `Invoke`; calls through the proxy call that method.
-/

namespace Unmask

structure ProxyType where
  typeToken : Token
  /-- The method that proxied calls name. -/
  entry : Token
  /-- The member reference that is meant. -/
  target : Token
  deriving DecidableEq, Repr, Inhabited

namespace ProxyType

/-- The constant in the second of three leading constant loads, if a call follows them. -/
def signatureTarget? (code : Array Instruction) : Option Token :=
  match code[0]?.bind Instruction.constant?, code[1]?.bind Instruction.constant?,
      code[2]?.bind Instruction.constant?, code[3]? with
  | some _, some target, some _, some i => if i.opcode = .call then some ⟨target.toUInt32⟩ else none
  | _, _, _, _ => none

/-- The methods of the type other than `invoke` itself that call it directly. -/
def callersOf (ty : TypeDef) (invoke : Token) : List MethodDef :=
  ty.methods.filter fun d =>
    d.token ≠ invoke && d.code.any fun i => i.opcode = .call && i.method? = some invoke

/-- Checks a type against the shape of a proxy. -/
def detect (ty : TypeDef) : Option ProxyType × List LogRecord :=
  if !ty.isDelegate then (none, [])
  else
    match ty.staticConstructor? with
    | none => (none, [])
    | some cctor =>
      if cctor.code.size < 4 then
        (none, [.debug (ty.name ++ ": initializer too short for a proxy")])
      else
        match signatureTarget? cctor.code with
        | none => (none, [.debug (ty.name ++ ": initializer does not match the proxy signature")])
        | some target =>
          match ty.methodNamed? "Invoke" with
          | none => (none, [])
          | some invoke =>
            match callersOf ty invoke.token with
            | [] => (none, [])
            | [entry] => (some ⟨ty.token, entry.token, target⟩, [])
            | _ => (none, [.debug (ty.name ++ ": more than one method calls Invoke")])

end ProxyType

end Unmask
