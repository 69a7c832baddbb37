import Unmask.Module.Basic
import Unmask.Wire.Instruction

/-!
# Modules on the wire

Structures are written as objects with all their fields. Reading fills in what may be missing.
-/

namespace Unmask

namespace TypeSignature

/-- The types that are written as a bare name. -/
def named : List (String × TypeSignature) :=
  [("Unknown", .unknown), ("Void", .void), ("Boolean", .bool), ("Char", .char),
   ("I1", .i1), ("U1", .u1), ("I2", .i2), ("U2", .u2), ("I4", .i4), ("U4", .u4),
   ("I8", .i8), ("U8", .u8), ("R4", .r4), ("R8", .r8), ("String", .string), ("Object", .object),
   ("I", .nativeInt), ("U", .nativeUInt)]

mutual

def toJson : TypeSignature → Json
  | .cls name => .obj [("Class", .str name)]
  | .valueType name => .obj [("ValueType", .str name)]
  | .byRef t => .obj [("ByRef", toJson t)]
  | .array t => .obj [("SzArray", toJson t)]
  | .generic base args => .obj [("GenericInst", .arr [toJson base, .arr (toJsons args)])]
  | .typeParam n => .obj [("GenericParamType", .nat n.toNat)]
  | .methodParam n => .obj [("GenericParamMethod", .nat n.toNat)]
  | .unknown => .str "Unknown"
  | .void => .str "Void"
  | .bool => .str "Boolean"
  | .char => .str "Char"
  | .i1 => .str "I1"
  | .u1 => .str "U1"
  | .i2 => .str "I2"
  | .u2 => .str "U2"
  | .i4 => .str "I4"
  | .u4 => .str "U4"
  | .i8 => .str "I8"
  | .u8 => .str "U8"
  | .r4 => .str "R4"
  | .r8 => .str "R8"
  | .string => .str "String"
  | .object => .str "Object"
  | .nativeInt => .str "I"
  | .nativeUInt => .str "U"

def toJsons : List TypeSignature → List Json
  | [] => []
  | t :: rest => toJson t :: toJsons rest

end

mutual

/-- A named type may also be written as an object with its name and `null`, or, where the reader is
`loose`, with an empty object. -/
def read (loose : Bool) : Json → Option TypeSignature
  | .str name => named.lookup name
  | .obj [(name, payload)] =>
    if name = "Class" then payload.toStr?.map .cls
    else if name = "ValueType" then payload.toStr?.map .valueType
    else if name = "ByRef" then (read loose payload).map .byRef
    else if name = "SzArray" then (read loose payload).map .array
    else if name = "GenericInst" then
      match payload with
      | .arr [base, .arr args] => do return .generic (← read loose base) (← readAll loose args)
      | _ => none
    else if name = "GenericParamType" then payload.toUInt32?.map .typeParam
    else if name = "GenericParamMethod" then payload.toUInt32?.map .methodParam
    else
      match payload with
      | .null => named.lookup name
      | .obj [] => if loose then named.lookup name else none
      | _ => none
  | _ => none

def readAll (loose : Bool) : List Json → Option (List TypeSignature)
  | [] => some []
  | j :: rest => do return (← read loose j) :: (← readAll loose rest)

end

def ofJson? (j : Json) : Option TypeSignature := read false j

end TypeSignature

namespace MethodSignature

def fields (s : MethodSignature) : List (String × Json) :=
  [("has_this", .bool s.hasThis), ("return_type", s.returnType.toJson),
   ("params", .arr (TypeSignature.toJsons s.params))]

def toJson (s : MethodSignature) : Json := .obj s.fields

def read (loose : Bool) (j : Json) : Option MethodSignature :=
  match j.record? ["has_this", "return_type", "params"] with
  | some [hasThis, returnType, params] => do
    let hasThis ← Json.required Json.toBool? hasThis
    let returnType ← Json.required (TypeSignature.read loose) returnType
    let params ← Json.required (Json.toList? (TypeSignature.read loose)) params
    return ⟨hasThis, returnType, params⟩
  | _ => none

def ofJson? (j : Json) : Option MethodSignature := read false j

end MethodSignature

namespace MemberSignature

/-- The tag stands among the fields of what it tags. -/
def toJson : MemberSignature → Json
  | .method s => .obj (("kind", .str "method") :: s.fields)
  | .field type => .obj [("kind", .str "field"), ("field_type", type.toJson)]

/-- The content that goes with a tag. Types in it are read loosely. -/
def ofParts? (kind : String) (content : Json) : Option MemberSignature :=
  if kind = "method" then (MethodSignature.read true content).map .method
  else if kind = "field" then
    match content.record? ["field_type"] with
    | some [type] => (Json.required (TypeSignature.read true) type).map .field
    | _ => none
  else none

def ofJson? : Json → Option MemberSignature
  | .obj fields =>
    match fields.lookup "kind" with
    | some (.str kind) => ofParts? kind (.obj fields)
    | _ => none
  | .arr (.str kind :: rest) => ofParts? kind (.arr rest)
  | _ => none

end MemberSignature

namespace MethodDef

def toJson (d : MethodDef) : Json :=
  .obj [("token", d.token.toJson), ("name", .str d.name), ("flags", .nat d.flags.toNat),
    ("signature", d.signature.toJson),
    ("body", Json.opt (fun body => .arr (body.toList.map Instruction.toJson)) d.body)]

def bodyOfJson? (j : Json) : Option (Array Instruction) :=
  (j.toList? Instruction.ofJson?).map List.toArray

def ofJson? (j : Json) : Option MethodDef :=
  match j.record? ["token", "name", "flags", "signature", "body"] with
  | some [token, name, flags, signature, body] => do
    let token ← Json.required Token.ofJson? token
    let name ← Json.required Json.toStr? name
    let flags ← Json.required Json.toUInt32? flags
    let signature ← Json.required MethodSignature.ofJson? signature
    let body ← Json.orDefault (Json.toOption? bodyOfJson?) none body
    return ⟨token, name, flags, signature, body⟩
  | _ => none

end MethodDef

namespace TypeDef

def toJson (ty : TypeDef) : Json :=
  .obj [("token", ty.token.toJson), ("namespace", .str ty.namespaceName), ("name", .str ty.name),
    ("enclosing", Json.opt Token.toJson ty.enclosing), ("flags", .nat ty.flags.toNat),
    ("is_delegate", .bool ty.isDelegate), ("methods", .arr (ty.methods.map MethodDef.toJson))]

def ofJson? (j : Json) : Option TypeDef :=
  match j.record?
      ["token", "namespace", "name", "enclosing", "flags", "is_delegate", "methods"] with
  | some [token, ns, name, enclosing, flags, isDelegate, methods] => do
    let token ← Json.required Token.ofJson? token
    let ns ← Json.orDefault Json.toStr? "" ns
    let name ← Json.required Json.toStr? name
    let enclosing ← Json.orDefault (Json.toOption? Token.ofJson?) none enclosing
    let flags ← Json.orDefault Json.toUInt32? 0 flags
    let isDelegate ← Json.orDefault Json.toBool? false isDelegate
    let methods ← Json.orDefault (Json.toList? MethodDef.ofJson?) [] methods
    return ⟨token, ns, name, enclosing, flags, isDelegate, methods⟩
  | _ => none

end TypeDef

namespace MemberRef

def toJson (r : MemberRef) : Json :=
  .obj [("token", r.token.toJson), ("class", .str r.className), ("name", .str r.name),
    ("signature", r.signature.toJson)]

def ofJson? (j : Json) : Option MemberRef :=
  match j.record? ["token", "class", "name", "signature"] with
  | some [token, className, name, signature] => do
    let token ← Json.required Token.ofJson? token
    let className ← Json.required Json.toStr? className
    let name ← Json.required Json.toStr? name
    let signature ← Json.required MemberSignature.ofJson? signature
    return ⟨token, className, name, signature⟩
  | _ => none

end MemberRef

namespace Module

def toJson (m : Module) : Json :=
  .obj [("name", .str m.name), ("types", .arr (m.types.map TypeDef.toJson)),
    ("member_refs", .arr (m.memberRefs.map MemberRef.toJson))]

def ofJson? (j : Json) : Option Module :=
  match j.record? ["name", "types", "member_refs"] with
  | some [name, types, memberRefs] => do
    let name ← Json.orDefault Json.toStr? "" name
    let types ← Json.orDefault (Json.toList? TypeDef.ofJson?) [] types
    let memberRefs ← Json.orDefault (Json.toList? MemberRef.ofJson?) [] memberRefs
    return ⟨name, types, memberRefs⟩
  | _ => none

end Module

end Unmask
