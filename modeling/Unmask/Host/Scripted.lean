import Unmask.Host.Basic

/-!
# A host that answers from a table

The answers of each method are listed by argument. Every question is kept in the order asked.
-/

namespace Unmask

/-- What a live method does when it is called. -/
inductive ScriptedAnswer where
  | value (v : Value)
  | fail (message : String)
  | throw (message : String)
  /-- Answers with something that is not a value. -/
  | garbled
  deriving DecidableEq, Repr, Inhabited

structure ScriptedMethod where
  /-- Answers by the decimal text of the argument. -/
  answers : List (String × ScriptedAnswer) := []
  otherwise : Option ScriptedAnswer := none
  deriving DecidableEq, Repr, Inhabited

inductive HostScript where
  | unavailable (message : String)
  | types (known : List (String × List (String × ScriptedMethod)))
  deriving Repr, Inhabited

/-- A question put to a host. -/
inductive HostCall where
  | load (data : ByteArray)
  | findType (name : String)
  | findMethod (typeName name : String)
  | invoke (method : String) (args : List Value)

namespace HostScript

def type? : HostScript → String → Option (List (String × ScriptedMethod))
  | .unavailable _, _ => none
  | .types known, name => known.lookup name

def method? (script : HostScript) (typeName name : String) : Option ScriptedMethod :=
  (script.type? typeName).bind fun methods => methods.lookup name

/-- The answer to a call with one `int32` argument. -/
def answer (script : HostScript) (typeName name : String) (args : List Value) : ScriptedAnswer :=
  let listed := do
    let method ← script.method? typeName name
    match args with
    | [.int32 v] => (method.answers.lookup (toString v.toInt)).or method.otherwise
    | _ => method.otherwise
  listed.getD (.throw "no answer")

/-- The host that follows a script and keeps the calls made to it. -/
def host (script : HostScript) : Host (List HostCall) where
  load data calls :=
    { value := match script with
        | .unavailable message => .error (.oracleUnavailable message)
        | .types _ => .ok 0
      state := calls ++ [.load data] }
  findType _ name calls :=
    { value := (script.type? name).isSome, state := calls ++ [.findType name] }
  findMethod _ typeName name calls :=
    { value := (script.method? typeName name).isSome
      state := calls ++ [.findMethod typeName name] }
  invoke _ typeName name args calls :=
    let method := typeName ++ "::" ++ name
    { value := match script.answer typeName name args with
        | .value v => .ok v
        | .fail message => .error (.other message)
        | .throw message => .error (.invocation method message)
        | .garbled => .error .json
      state := calls ++ [.invoke method args] }

end HostScript

end Unmask
