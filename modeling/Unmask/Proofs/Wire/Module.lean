import Unmask.Proofs.Wire.Instruction
import Unmask.Wire.Module

/-!
# Modules survive the wire

Reading what was written gives back the module, whatever its tokens, types, operands and strings
are: type signatures by recursion on the tree, the structures field by field.
-/

namespace Unmask

namespace TypeSignature

mutual

/-- A reader of either kind reads back what was written. -/
theorem read_toJson (loose : Bool) : (t : TypeSignature) → read loose t.toJson = some t
  | .byRef t | .array t => by
    rw [toJson, read.eq_def]
    simp [read_toJson loose t]
  | .generic base args => by
    rw [toJson, read.eq_def]
    simp [read_toJson loose base, readAll_toJsons loose args]
  | .cls _ | .valueType _ | .typeParam _ | .methodParam _ => by
    rw [toJson, read.eq_def]
    simp
  | .unknown | .void | .bool | .char | .i1 | .u1 | .i2 | .u2 | .i4 | .u4 | .i8 | .u8 | .r4 | .r8
  | .string | .object | .nativeInt | .nativeUInt => by
    simp [toJson, read, named, List.lookup_cons]

theorem readAll_toJsons (loose : Bool) :
    (ts : List TypeSignature) → readAll loose (toJsons ts) = some ts
  | [] => by simp [toJsons, readAll]
  | t :: rest => by simp [toJsons, readAll, read_toJson loose t, readAll_toJsons loose rest]

end

theorem toJsons_eq_map (ts : List TypeSignature) : toJsons ts = ts.map toJson := by
  induction ts with
  | nil => simp [toJsons]
  | cons t rest ih => rw [toJsons, ih, List.map_cons]

@[simp] theorem ofJson?_toJson (t : TypeSignature) : ofJson? t.toJson = some t :=
  read_toJson false t

end TypeSignature

/-! ## Signatures -/

/-- A method signature is read back from any object that has its fields. -/
theorem MethodSignature.read_fields (loose : Bool) (s : MethodSignature)
    {fields : List (String × Json)}
    (h : ∀ name ∈ ["has_this", "return_type", "params"],
      fields.lookup name = s.fields.lookup name) :
    MethodSignature.read loose (.obj fields) = some s := by
  have hfields : (Json.obj fields).record? ["has_this", "return_type", "params"] =
      some [some (.bool s.hasThis), some s.returnType.toJson,
        some (.arr (s.params.map TypeSignature.toJson))] := by
    rw [Json.record?, List.map_congr_left h]
    simp [MethodSignature.fields, List.lookup_cons, TypeSignature.toJsons_eq_map]
  have hparams := Json.toList?_map (TypeSignature.read_toJson loose) s.params
  simp [MethodSignature.read, hfields, hparams, TypeSignature.read_toJson]

@[simp] theorem MethodSignature.ofJson?_toJson (s : MethodSignature) :
    MethodSignature.ofJson? s.toJson = some s :=
  read_fields false s fun _ _ => rfl

@[simp] theorem MemberSignature.ofJson?_toJson (s : MemberSignature) :
    MemberSignature.ofJson? s.toJson = some s := by
  cases s with
  | method s =>
    have hread : MethodSignature.read true (.obj (("kind", .str "method") :: s.fields)) = some s :=
      s.read_fields true (by simp [List.lookup_cons])
    simp [MemberSignature.ofJson?, MemberSignature.toJson, MemberSignature.ofParts?, hread]
  | field type =>
    simp [MemberSignature.ofJson?, MemberSignature.toJson, MemberSignature.ofParts?, Json.record?,
      List.lookup_cons, TypeSignature.read_toJson]

/-! ## Methods, types and references -/

@[simp] theorem MethodDef.bodyOfJson?_body (body : Array Instruction) :
    MethodDef.bodyOfJson? (.arr (body.toList.map Instruction.toJson)) = some body := by
  simp [MethodDef.bodyOfJson?, Json.toList?_map Instruction.ofJson?_toJson]

@[simp] theorem MethodDef.ofJson?_toJson (d : MethodDef) : MethodDef.ofJson? d.toJson = some d := by
  have hbody := Json.toOption?_opt MethodDef.bodyOfJson?_body (fun _ => nofun) d.body
  have hfields : d.toJson.record? ["token", "name", "flags", "signature", "body"] =
      some [some d.token.toJson, some (.str d.name), some (.nat d.flags.toNat),
        some d.signature.toJson,
        some (Json.opt (fun body => .arr (body.toList.map Instruction.toJson)) d.body)] := by
    simp [MethodDef.toJson, Json.record?, List.lookup_cons]
  simp [MethodDef.ofJson?, hfields, hbody]

@[simp] theorem TypeDef.ofJson?_toJson (ty : TypeDef) : TypeDef.ofJson? ty.toJson = some ty := by
  have henclosing := Json.toOption?_opt Token.ofJson?_toJson (fun _ => nofun) ty.enclosing
  have hmethods := Json.toList?_map MethodDef.ofJson?_toJson ty.methods
  have hfields : ty.toJson.record?
        ["token", "namespace", "name", "enclosing", "flags", "is_delegate", "methods"] =
      some [some ty.token.toJson, some (.str ty.namespaceName), some (.str ty.name),
        some (Json.opt Token.toJson ty.enclosing), some (.nat ty.flags.toNat),
        some (.bool ty.isDelegate), some (.arr (ty.methods.map MethodDef.toJson))] := by
    simp [TypeDef.toJson, Json.record?, List.lookup_cons]
  simp [TypeDef.ofJson?, hfields, henclosing, hmethods]

@[simp] theorem MemberRef.ofJson?_toJson (r : MemberRef) : MemberRef.ofJson? r.toJson = some r := by
  have hfields : r.toJson.record? ["token", "class", "name", "signature"] =
      some [some r.token.toJson, some (.str r.className), some (.str r.name),
        some r.signature.toJson] := by
    simp [MemberRef.toJson, Json.record?, List.lookup_cons]
  simp [MemberRef.ofJson?, hfields]

theorem Module.ofJson?_toJson (m : Module) : Module.ofJson? m.toJson = some m := by
  have htypes := Json.toList?_map TypeDef.ofJson?_toJson m.types
  have hrefs := Json.toList?_map MemberRef.ofJson?_toJson m.memberRefs
  have hfields : m.toJson.record? ["name", "types", "member_refs"] =
      some [some (.str m.name), some (.arr (m.types.map TypeDef.toJson)),
        some (.arr (m.memberRefs.map MemberRef.toJson))] := by
    simp [Module.toJson, Json.record?, List.lookup_cons]
  simp [Module.ofJson?, hfields, htypes, hrefs]

/-- Nothing is lost on the wire, neither of a module nor of a value of the host. -/
theorem wire_roundTrip :
    (∀ m : Module, Module.ofJson? m.toJson = some m) ∧
      ∀ v : Value, Value.ofJson? v.toJson = some v :=
  ⟨Module.ofJson?_toJson, Value.ofJson?_toJson⟩

end Unmask
