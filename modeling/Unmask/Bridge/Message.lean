import Unmask.Base64
import Unmask.Host.Basic
import Unmask.Json.Parser
import Unmask.Json.Printer
import Unmask.Wire.Module

/-!
# Messages between bridge and host

Requests and responses are JSON objects on one line each. Binary data travels as base64.
-/

namespace Unmask.Bridge

inductive Request where
  | loadModule (data : ByteArray)
  | writeModule (module : Module)
  | loadExecutable (data : ByteArray)
  | findType (image : ImageId) (name : String)
  | findMethod (image : ImageId) (typeName name : String)
  | invoke (image : ImageId) (typeName method : String) (args : List Value)
  | shutdown

namespace Request

def op : Request → String
  | .loadModule _ => "load_module"
  | .writeModule _ => "write_module"
  | .loadExecutable _ => "load_executable"
  | .findType _ _ => "get_type"
  | .findMethod _ _ _ => "get_method"
  | .invoke _ _ _ _ => "invoke"
  | .shutdown => "shutdown"

def fields : Request → List (String × Json)
  | .loadModule data => [("data", .str (Base64.encodeBytes data))]
  | .writeModule module => [("module", module.toJson)]
  | .loadExecutable data => [("data", .str (Base64.encodeBytes data))]
  | .findType image name => [("image", .nat image.toNat), ("name", .str name)]
  | .findMethod image typeName name =>
    [("image", .nat image.toNat), ("type_name", .str typeName), ("name", .str name)]
  | .invoke image typeName method args =>
    [("image", .nat image.toNat), ("type_name", .str typeName), ("method", .str method),
      ("args", .arr (args.map Value.toJson))]
  | .shutdown => []

def toJson (r : Request) : Json := .obj (("op", .str r.op) :: r.fields)

/-- The request as it is sent. -/
def line (r : Request) : String := r.toJson.compress ++ "\n"

end Request

structure Response where
  ok : Bool
  result : Json := .null
  error : Option String := none

namespace Response

/-- The three fields of a response, each of which may stand there once. -/
def ofFields? (fields : List (String × Json)) : Option Response := do
  let once (name : String) : Option (Option Json) :=
    match fields.filter fun f => f.1 = name with
    | [] => some none
    | [f] => some (some f.2)
    | _ => none
  let ok ← Json.required Json.toBool? (← once "ok")
  let result ← Json.orDefault some .null (← once "result")
  let error ← Json.orDefault (Json.toOption? Json.toStr?) none (← once "error")
  return ⟨ok, result, error⟩

def parse? (line : String) : Option Response :=
  let names := ["ok", "result", "error"]
  match Json.readRecord? names line with
  | some (.fields fields) => ofFields? fields
  | some (.items items) => if items.length ≤ 3 then ofFields? (names.zip items) else none
  | none => none

end Response

end Unmask.Bridge
