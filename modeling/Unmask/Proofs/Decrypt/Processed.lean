import Mathlib.Data.List.Nodup
import Unmask.Proofs.Decrypt.Helper

/-!
# The decrypt methods that a run processes

A run walks over the sites of a decrypt method if it reaches the helper, finds its live type, and
finds the live method that answers. The methods it processes are a part of those found, in the order
found, and distinct if the methods of the module are.
-/

namespace Unmask

theorem MethodSignature.isUnary_iff {s : MethodSignature} {ret param : TypeSignature} :
    s.isUnary ret param ↔ s.returnType = ret ∧ s.params = [param] := by
  simp [isUnary]

namespace DecryptHelper

theorem returnType_injective : Function.Injective LiteralKind.returnType := by
  intro kind kind' h
  cases kind <;> cases kind' <;> first | rfl | exact absurd h (by decide)

/-- The decrypt methods of a type are among its methods, one for each kind. -/
theorem decryptMethods_nodup {ty : TypeDef} (h : (ty.methods.map MethodDef.token).Nodup) :
    ((decryptMethods ty).map DecryptMethod.token).Nodup := by
  unfold decryptMethods
  split
  · exact List.nodup_singleton _
  · refine List.Nodup.map_on (fun c hc c' hc' htoken => ?_) ?_
    · obtain ⟨kind, -, hkind⟩ := List.mem_filterMap.1 hc
      obtain ⟨kind', -, hkind'⟩ := List.mem_filterMap.1 hc'
      obtain ⟨-, d, hd, hunary, hdtoken, -⟩ := methodOfKind?_eq_some hkind
      obtain ⟨-, d', hd', hunary', hdtoken', -⟩ := methodOfKind?_eq_some hkind'
      obtain rfl := List.inj_on_of_nodup_map h hd hd' (by rw [hdtoken, hdtoken', htoken])
      have hreturn : kind.returnType = kind'.returnType :=
        (MethodSignature.isUnary_iff.1 hunary).1.symm.trans
          (MethodSignature.isUnary_iff.1 hunary').1
      obtain rfl := returnType_injective hreturn
      exact Option.some.inj (hkind.symm.trans hkind')
    · refine List.Nodup.filterMap (fun kind kind' c hc hc' => ?_) (by decide)
      rw [← (methodOfKind?_eq_some hc).1, ← (methodOfKind?_eq_some hc').1]

end DecryptHelper

namespace Decrypt

variable {σ : Type}

/-- The decrypt methods of a type if it is a helper. -/
theorem methodsFound_eq (m : Module) : methodsFound m = m.types.flatMap fun ty =>
    ((DecryptHelper.detect m ty).1.toList).flatMap DecryptHelper.methods := by
  unfold methodsFound helpers
  simp only [List.filterMap_map, Function.comp_def]
  induction m.types with
  | nil => rfl
  | cons ty rest ih =>
    cases h : (DecryptHelper.detect m ty).1 with
    | none => simp [h, ih]
    | some helper => simp [h, ih]

theorem methodsFound_nodup {m : Module} (h : (m.methods.map MethodDef.token).Nodup) :
    ((methodsFound m).map DecryptMethod.token).Nodup := by
  rw [Module.methods, List.map_flatMap, List.nodup_flatMap] at h
  rw [methodsFound_eq, List.map_flatMap, List.nodup_flatMap]
  have htokens : ∀ ty, (((DecryptHelper.detect m ty).1.toList).flatMap DecryptHelper.methods).map
      DecryptMethod.token ⊆ ty.methods.map MethodDef.token := by
    intro ty t ht
    obtain ⟨c, hc, rfl⟩ := List.mem_map.1 ht
    obtain ⟨helper, hhelper, hmethod⟩ := List.mem_flatMap.1 hc
    obtain ⟨d, hd, htoken, -⟩ := DecryptHelper.exists_method (Option.mem_toList.1 hhelper) hmethod
    exact List.mem_map.2 ⟨d, hd, htoken⟩
  refine ⟨fun ty hty => ?_, h.2.imp fun {ty ty'} hdisjoint => ?_⟩
  · cases hdetect : (DecryptHelper.detect m ty).1 with
    | none => simp
    | some helper =>
      obtain ⟨_, -, -, rfl⟩ := DecryptHelper.detect_eq_some hdetect
      simpa using DecryptHelper.decryptMethods_nodup (h.1 ty hty)
  · exact fun t ht ht' => hdisjoint (htokens ty ht) (htokens ty' ht')

/-! ## Processed methods -/

/-- Whether the live method that answers for `method` is there. -/
def liveFound (host : Host σ) (numeric : NumericOracle) (image : ImageId) (helper : DecryptHelper)
    (p : Progress σ) (method : DecryptMethod) : Bool :=
  match oracleFor? numeric helper method with
  | none => false
  | some oracle =>
    (host.findMethod image helper.runtimeName oracle.name p.walk.oracle.host).value

/-- The methods of a helper that are processed. -/
def processedMethods (host : Host σ) (numeric : NumericOracle) (image : ImageId)
    (helper : DecryptHelper) : List DecryptMethod → Progress σ → List DecryptMethod
  | [], _ => []
  | method :: rest, p =>
    let others := processedMethods host numeric image helper rest
      (decryptMethod host numeric image helper p method)
    if liveFound host numeric image helper p method then method :: others else others

/-- The methods of some helpers that are processed. -/
def processedHelpers (host : Host σ) (numeric : NumericOracle) (image : ImageId) :
    List DecryptHelper → Progress σ → List DecryptMethod
  | [], _ => []
  | helper :: rest, p =>
    let reply := host.findType image helper.runtimeName p.walk.oracle.host
    let p := { p with walk.oracle.host := reply.state }.note ⟨[], reply.log⟩
    if reply.value then
      processedMethods host numeric image helper helper.methods p ++
        processedHelpers host numeric image rest
          (helper.methods.foldl (decryptMethod host numeric image helper) p)
    else []

/-- The decrypt methods that a run over a module processes. -/
def processed (host : Host σ) (data : ByteArray) (numeric : NumericOracle) (m : Module)
    (o : Oracle σ) : List DecryptMethod :=
  let (found, log) := helpers m
  let reply := host.load data o.host
  match reply.value with
  | .error _ => []
  | .ok image =>
    processedHelpers host numeric image found
      ⟨m, ⟨{ o with host := reply.state }, ⟨[], log ++ reply.log⟩⟩, 0⟩

theorem processedMethods_sublist (host : Host σ) (numeric : NumericOracle) (image : ImageId)
    (helper : DecryptHelper) (l : List DecryptMethod) (p : Progress σ) :
    (processedMethods host numeric image helper l p).Sublist l := by
  induction l generalizing p with
  | nil => exact .refl []
  | cons method rest ih =>
    unfold processedMethods
    simp only
    split
    · exact (ih _).cons_cons method
    · exact (ih _).cons method

theorem processedHelpers_sublist (host : Host σ) (numeric : NumericOracle) (image : ImageId)
    (found : List DecryptHelper) (p : Progress σ) :
    (processedHelpers host numeric image found p).Sublist
      (found.flatMap DecryptHelper.methods) := by
  induction found generalizing p with
  | nil => exact .refl []
  | cons helper rest ih =>
    unfold processedHelpers
    simp only
    split
    · exact (processedMethods_sublist host numeric image helper _ _).append (ih _)
    · exact List.nil_sublist _

theorem processed_sublist (host : Host σ) (data : ByteArray) (numeric : NumericOracle) (m : Module)
    (o : Oracle σ) : (processed host data numeric m o).Sublist (methodsFound m) := by
  unfold processed
  simp only
  split
  · exact List.nil_sublist _
  · exact processedHelpers_sublist host numeric _ _ _

end Decrypt

end Unmask
