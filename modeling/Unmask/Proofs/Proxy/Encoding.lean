import Unmask.Proofs.Module.Encoding
import Unmask.Proxy.Pass

/-!
# The proxy pass does not see encodings

Over a module with all constants in the long form the pass does as over the module itself, step by
step, and leaves the long form of what it leaves there: `processAll_longForm`. The resolver has to
take no notice of encodings either, and one that searches for definitions does not.
-/

namespace Unmask

open Instruction (longForm)

/-- The answers of the resolver are the same for modules that differ in encodings only. -/
def IgnoresEncodings (resolver : Resolver) : Prop :=
  ∀ m m' : Module, m.Recoded m' → ∀ r, resolver m r = resolver m' r

theorem resolveWith_ignoresEncodings (references : List Module) :
    IgnoresEncodings (resolveWith references) := by
  intro m m' h r
  rw [← m.resolveWith_mapCode longForm, ← m'.resolveWith_mapCode longForm]
  exact congrArg (resolveWith references · r) (Module.recoded_iff.1 h)

namespace ProxyType

theorem signatureTarget?_longForm (code : Array Instruction) :
    signatureTarget? (code.map longForm) = signatureTarget? code := by
  have hconstant (k : Nat) : ((code.map longForm)[k]?).bind Instruction.constant? =
      code[k]?.bind Instruction.constant? := by
    rw [Array.getElem?_map]
    cases code[k]? <;> simp
  have hcall : (code.map longForm)[3]?.map (fun i => decide (i.opcode = .call)) =
      code[3]?.map fun i => decide (i.opcode = .call) := by
    rw [Array.getElem?_map, Option.map_map]
    congr 1
    exact funext Instruction.isDirectCall_longForm
  unfold signatureTarget?
  simp only [hconstant]
  generalize code[0]?.bind Instruction.constant? = first
  generalize code[1]?.bind Instruction.constant? = second
  generalize code[2]?.bind Instruction.constant? = third
  generalize (code.map longForm)[3]? = i, code[3]? = j at hcall
  cases first <;> cases second <;> cases third <;> cases i <;> cases j <;> simp_all

theorem callersOf_longForm (ty : TypeDef) (invoke : Token) :
    callersOf (ty.mapCode longForm) invoke =
      (callersOf ty invoke).map (MethodDef.mapCode longForm) := by
  unfold callersOf
  rw [TypeDef.mapCode_methods, List.filter_map]
  congr 1
  refine List.filter_congr fun d _ => ?_
  simp only [Function.comp_apply, MethodDef.mapCode_token, MethodDef.mapCode_code, Array.size_map,
    Array.any_map', Instruction.isDirectCall_longForm, Instruction.method?_longForm]
  rfl

theorem detect_longForm (ty : TypeDef) : detect (ty.mapCode longForm) = detect ty := by
  unfold detect
  rw [TypeDef.staticConstructor?_mapCode, TypeDef.methodNamed?_mapCode]
  have hdelegate : (ty.mapCode longForm).isDelegate = ty.isDelegate := rfl
  rw [hdelegate]
  cases ty.staticConstructor? with
  | none => rfl
  | some cctor =>
    simp only [Option.map_some, MethodDef.mapCode_code, Array.size_map, signatureTarget?_longForm]
    cases signatureTarget? cctor.code with
    | none => rfl
    | some target =>
      cases ty.methodNamed? "Invoke" with
      | none => rfl
      | some invoke =>
        simp only [Option.map_some, MethodDef.mapCode_token, callersOf_longForm]
        rcases callersOf ty invoke.token with _ | ⟨entry, _ | _⟩ <;> rfl

end ProxyType

namespace Proxy

/-- The step with all constants of its module in the long form. -/
def Step.longForm (step : Step) : Step := { step with module := step.module.longForm }

variable (m : Module)

theorem candidates_longForm : candidates m.longForm = candidates m := by
  have hdepths : (m.longForm.types.filter TypeDef.isDelegate).map
        (fun ty => (m.longForm.nestingDepth ty, ty.token)) =
      (m.types.filter TypeDef.isDelegate).map fun ty => (m.nestingDepth ty, ty.token) := by
    show ((m.types.map (TypeDef.mapCode _)).filter _).map _ = _
    rw [List.filter_map, List.map_map]
    exact List.map_congr_left fun ty _ =>
      congrArg (·, ty.token) (m.nestingDepth_mapCode Instruction.longForm ty)
  unfold candidates
  rw [hdepths]

theorem outsideReference?_longForm (proxy : Token) :
    outsideReference? m.longForm proxy = outsideReference? m proxy := by
  have hdoomed : m.longForm.typeAndNested proxy = m.typeAndNested proxy :=
    Module.typeAndNested_mapCode proxy
  have htypes (keep : TypeDef → Bool) (hkeep : ∀ ty, keep (ty.mapCode .longForm) = keep ty) :
      m.longForm.types.filter keep = (m.types.filter keep).map (TypeDef.mapCode .longForm) := by
    show (m.types.map _).filter keep = _
    rw [List.filter_map]
    congr 2
    exact funext hkeep
  unfold outsideReference?
  simp only [hdoomed]
  split
  · rfl
  · rw [htypes _ fun _ => rfl, htypes _ fun _ => rfl, List.flatMap_map, List.flatMap_map]
    simp only [TypeDef.mapCode_methods, List.map_map, ← List.map_flatMap, List.find?_map,
      Option.map_map, Function.comp_def, MethodDef.mapCode_token, MethodDef.mapCode_code,
      Array.size_map, Array.any_map', Instruction.token?_longForm]

theorem stackMismatch?_longForm (proxy : ProxyType) (target : ResolvedMethod) :
    stackMismatch? m.longForm proxy target = stackMismatch? m proxy target := by
  simp only [stackMismatch?, Module.longForm, Module.callEffect?_mapCode]

theorem redirect_longForm (proxy : ProxyType) (op : OpCode) :
    redirect m.longForm proxy op = (redirect m proxy op).mapCode Instruction.longForm := by
  refine replace_mapCode (fun d i s => ?_) (fun d i s => ?_) m []
  · rw [Instruction.calls_longForm]
  · exact congrArg (·, d.token :: s) (Instruction.longForm_of_token rfl).symm

theorem removeProxy_longForm (proxy : ProxyType) (typeName : String) (rewritten : Bool) :
    removeProxy m.longForm proxy typeName rewritten =
      (removeProxy m proxy typeName rewritten).longForm := by
  unfold removeProxy
  rw [outsideReference?_longForm]
  cases outsideReference? m proxy.typeToken with
  | some user =>
    simp only [Module.longForm, Module.displayName_mapCode]
    rfl
  | none =>
    simp only [Module.longForm, Module.removeType_mapCode]
    cases m.removeType proxy.typeToken <;> rfl

theorem process_longForm {resolver : Resolver} (hresolver : IgnoresEncodings resolver)
    (removeTypes : Bool) (proxy : ProxyType) :
    process resolver removeTypes m.longForm proxy =
      (process resolver removeTypes m proxy).longForm := by
  have htype : m.longForm.typeDef? proxy.typeToken =
      (m.typeDef? proxy.typeToken).map (TypeDef.mapCode .longForm) := m.typeDef?_mapCode _ _
  have hmember : m.longForm.memberRef? proxy.target = m.memberRef? proxy.target := rfl
  have hname (ty : TypeDef) : m.longForm.fullName (ty.mapCode .longForm) = m.fullName ty :=
    m.fullName_mapCode _ ty
  unfold process
  rw [htype, hmember]
  -- the name of the type is read off first, in both cases the rest is the same
  cases m.typeDef? proxy.typeToken
  all_goals
    simp only [Option.map_none, Option.map_some, hname]
    cases m.memberRef? proxy.target with
    | none => rfl
    | some member =>
      simp only [← hresolver m m.longForm m.recoded_longForm member]
      cases resolver m member with
      | none => rfl
      | some target =>
        simp only [stackMismatch?_longForm]
        cases stackMismatch? m proxy target with
        | some nets => rfl
        | none =>
          simp only [redirect_longForm, Edited.mapCode]
          cases removeTypes with
          | false => rfl
          | true =>
            have hremoved := removeProxy_longForm (redirect m proxy target.callKind).module proxy
            simp only [Module.longForm] at hremoved
            simp only [if_true, hremoved]
            rfl

theorem processAll_longForm {resolver : Resolver} (hresolver : IgnoresEncodings resolver)
    (removeTypes : Bool) (ts : List Token) :
    processAll resolver removeTypes ts m.longForm =
      (processAll resolver removeTypes ts m).longForm := by
  induction ts generalizing m with
  | nil => rfl
  | cons t rest ih =>
    have hfound : (m.longForm.typeDef? t).map ProxyType.detect =
        (m.typeDef? t).map ProxyType.detect := by
      rw [Module.longForm, Module.typeDef?_mapCode, Option.map_map]
      congr 1
      exact funext ProxyType.detect_longForm
    unfold processAll
    rw [hfound]
    cases (m.typeDef? t).map ProxyType.detect with
    | none => exact ih m
    | some detected =>
      obtain ⟨_ | proxy, log⟩ := detected
      · simp only [ih]
        rfl
      · simp only [process_longForm m hresolver]
        cases hchanged : (process resolver removeTypes m proxy).changed with
        | error e => simp only [Step.longForm, hchanged]
        | ok changed =>
          simp only [Step.longForm, hchanged]
          have hlater := ih (process resolver removeTypes m proxy).module
          simp only [hlater]
          rfl

end Proxy

end Unmask
