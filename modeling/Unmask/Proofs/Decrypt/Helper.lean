import Unmask.Decrypt.Pass
import Unmask.Host.Scripted

/-!
# Helpers of a module

The shape of a type that is found to be a helper, and what follows for its decrypt methods: each is
a method of the type, and so is the one that answers for it.
-/

namespace Unmask

namespace DecryptHelper

theorem methodOfKind?_eq_some {ty : TypeDef} {kind : LiteralKind} {method : DecryptMethod}
    (h : methodOfKind? ty kind = some method) :
    method.kind = kind ∧ ∃ d ∈ ty.methods, d.signature.isUnary kind.returnType .i4 ∧
      d.token = method.token ∧ d.name = method.name := by
  obtain ⟨d, hfind, rfl⟩ := Option.map_eq_some_iff.1 h
  have hunary := List.find?_some hfind
  exact ⟨rfl, d, List.mem_of_find?_eq_some hfind, by simpa using hunary, rfl, rfl⟩

theorem mem_decryptMethods {ty : TypeDef} {method : DecryptMethod}
    (h : method ∈ decryptMethods ty) : methodOfKind? ty method.kind = some method := by
  unfold decryptMethods at h
  split at h
  · rename_i d hd
    obtain rfl := List.mem_singleton.1 h
    rwa [(methodOfKind?_eq_some hd).1]
  · obtain ⟨kind, -, hkind⟩ := List.mem_filterMap.1 h
    rwa [(methodOfKind?_eq_some hkind).1]

theorem detect_eq_some {m : Module} {ty : TypeDef} {helper : DecryptHelper}
    (h : (detect m ty).1 = some helper) :
    ∃ cctor, ty.staticConstructor? = some cctor ∧
      markers.all (calledMembers m cctor.code).contains ∧
      helper = ⟨ty.token, m.reflectionName ty, decryptMethods ty⟩ := by
  unfold detect at h
  split at h
  · cases h
  rename_i cctor hcctor
  simp only at h
  split at h
  · cases h
  rename_i hmarkers
  split at h
  · cases h
  · exact ⟨cctor, hcctor, by simpa using hmarkers, (Option.some.inj h).symm⟩

/-- The decrypt methods of a helper are methods of its type. -/
theorem exists_method {m : Module} {ty : TypeDef} {helper : DecryptHelper}
    (h : (detect m ty).1 = some helper) {method : DecryptMethod}
    (hmethod : method ∈ helper.methods) :
    ∃ d ∈ ty.methods, d.token = method.token ∧ d.signature.isUnary method.kind.returnType .i4 := by
  obtain ⟨_, -, -, rfl⟩ := detect_eq_some h
  obtain ⟨-, d, hd, hunary, htoken, -⟩ := methodOfKind?_eq_some (mem_decryptMethods hmethod)
  exact ⟨d, hd, htoken, hunary⟩

end DecryptHelper

namespace Decrypt

theorem mem_helpers {m : Module} {helper : DecryptHelper} (h : helper ∈ (helpers m).1) :
    ∃ ty ∈ m.types, (DecryptHelper.detect m ty).1 = some helper := by
  obtain ⟨_, hfound, hdetect⟩ := List.mem_filterMap.1 h
  obtain ⟨ty, hty, rfl⟩ := List.mem_map.1 hfound
  exact ⟨ty, hty, hdetect⟩

/-- The decrypt methods of the helpers of a module. -/
def methodsFound (m : Module) : List DecryptMethod := (helpers m).1.flatMap DecryptHelper.methods

/-- A decrypt method is a method of the module that takes an `int32` and returns its kind. -/
theorem exists_unary {m : Module} {method : DecryptMethod} (h : method ∈ methodsFound m) :
    ∃ d ∈ m.methods, d.token = method.token ∧ d.signature.isUnary method.kind.returnType .i4 := by
  obtain ⟨helper, hhelper, hmethod⟩ := List.mem_flatMap.1 h
  obtain ⟨ty, hty, hdetect⟩ := mem_helpers hhelper
  obtain ⟨d, hd, htoken, hunary⟩ := DecryptHelper.exists_method hdetect hmethod
  exact ⟨d, List.mem_flatMap.2 ⟨ty, hty, hd⟩, htoken, hunary⟩

theorem mem_methodsFound {m : Module} {method : DecryptMethod} (h : method ∈ methodsFound m) :
    ∃ d ∈ m.methods, d.token = method.token := by
  obtain ⟨d, hd, htoken, -⟩ := exists_unary h
  exact ⟨d, hd, htoken⟩

theorem isSite_iff {method : DecryptMethod} {i : Instruction} :
    isSite method i ↔ i = .call method.token := by
  obtain ⟨op, operand⟩ := i
  unfold isSite Instruction.method? Instruction.call
  cases operand <;> simp

theorem bind_eq_ok {ε α β : Type} {x : Except ε α} {f : α → Except ε β} {b : β}
    (h : x.bind f = .ok b) : ∃ a, x = .ok a ∧ f a = .ok b := by
  cases x with
  | error e => cases h
  | ok a => exact ⟨a, rfl, h⟩

/-- The method that answers for a decrypt method is one of the same helper. -/
theorem oracleFor?_mem {numeric : NumericOracle} {helper : DecryptHelper}
    {method oracle : DecryptMethod} (h : oracleFor? numeric helper method = some oracle)
    (hmethod : method ∈ helper.methods) : oracle ∈ helper.methods := by
  unfold oracleFor? at h
  split at h
  · exact List.mem_of_find?_eq_some h
  · exact Option.some.inj h ▸ hmethod

/-! ## A helper for numbers -/

/-- A program with the given main method, and a helper that decrypts `int32` constants. -/
def numberModule (main : Array Instruction) : Module where
  name := "app"
  types :=
    [{ token := ⟨0x02000001⟩
       name := "Numbers"
       methods :=
        [⟨⟨0x06000001⟩, ".cctor", 0x10, ⟨false, .void, []⟩, some
            #[.call ⟨0x0A000001⟩, .call ⟨0x0A000002⟩, .call ⟨0x0A000003⟩]⟩,
         ⟨⟨0x06000002⟩, "Get", 0x10, ⟨false, .i4, [.i4]⟩, none⟩] },
     { token := ⟨0x02000002⟩
       name := "Program"
       methods := [⟨⟨0x06000003⟩, "Main", 0x10, ⟨false, .void, []⟩, some main⟩] }]
  memberRefs :=
    [⟨⟨0x0A000001⟩, "System.Convert", "FromBase64String", .method ⟨false, .void, []⟩⟩,
     ⟨⟨0x0A000002⟩, "System.Reflection.Assembly", "GetExecutingAssembly",
       .method ⟨false, .void, []⟩⟩,
     ⟨⟨0x0A000003⟩, "System.Reflection.Assembly", "GetManifestResourceStream",
       .method ⟨true, .void, []⟩⟩]

/-- A host for that module, which knows the answers for two arguments. -/
def numberHost : HostScript :=
  .types [("Numbers", [("Get",
    { answers := [("7", .value (.int32 8)), ("8", .value (.int32 9))] })])]

end Decrypt

end Unmask
