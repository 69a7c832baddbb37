import Unmask.Proofs.Decrypt.Course
import Unmask.Proofs.Decrypt.Rerun
import Unmask.Proofs.Module.Encoding

/-!
# The decrypt pass does not see encodings

Over a module with all constants in the long form the pass finds the same helpers, asks its host the
same in the same order, and leaves the long form of what it leaves of the module itself:
`run_longForm`.
-/

namespace Unmask

open Instruction (longForm)

namespace DecryptHelper

theorem calledMembers_longForm (m : Module) (code : Array Instruction) :
    calledMembers m.longForm (code.map longForm) = calledMembers m code := by
  unfold calledMembers
  rw [Array.toList_map, List.filterMap_map]
  refine List.filterMap_congr fun i _ => ?_
  simp only [Function.comp_apply, Instruction.isCall_longForm, Instruction.method?_longForm]
  rfl

theorem detect_longForm (m : Module) (ty : TypeDef) :
    detect m.longForm (ty.mapCode longForm) = detect m ty := by
  have hmethods : decryptMethods (ty.mapCode longForm) = decryptMethods ty :=
    decryptMethods_mapBodies (Array.map longForm) ty
  have hname : m.longForm.reflectionName (ty.mapCode longForm) = m.reflectionName ty :=
    m.qualifiedName_mapCode longForm "+" ty
  unfold detect
  rw [TypeDef.staticConstructor?_mapCode]
  cases ty.staticConstructor? with
  | none => rfl
  | some cctor =>
    simp only [Option.map_some, MethodDef.mapCode_code, calledMembers_longForm, hmethods, hname]
    rfl

end DecryptHelper

/-- The literals of the decrypt pass are in the long form. -/
theorem LiteralKind.longForm_literal {kind : LiteralKind} {v : Value} {load : Instruction}
    (h : kind.literal v = .ok load) : load.longForm = load := by
  cases kind <;> cases v <;> cases h <;> rfl

namespace Decrypt

variable {σ : Type} (host : Host σ) (numeric : NumericOracle) (image : ImageId)

theorem helpers_longForm (m : Module) : helpers m.longForm = helpers m := by
  have hfound : m.longForm.types.map (DecryptHelper.detect m.longForm) =
      m.types.map (DecryptHelper.detect m) := by
    show (m.types.map (TypeDef.mapCode longForm)).map _ = _
    rw [List.map_map]
    exact List.map_congr_left fun ty _ => DecryptHelper.detect_longForm m ty
  unfold helpers
  rw [hfound]

/-- A site is asked about alike. -/
theorem patchSite_longForm (method : DecryptMethod) (live : Live) (site : Site) (walk : Walk σ) :
    patchSite host method live (site.mapCode longForm) walk =
      patchSite host method live site walk := by
  have hinstruction : (site.mapCode longForm).instruction = site.instruction.longForm := by
    simp only [Site.instruction, Site.mapCode, MethodDef.mapCode_code, Array.getElem?_map]
    cases site.method.code[site.index]? <;> rfl
  have hsite : isSite method (site.mapCode longForm).instruction =
      isSite method site.instruction := by
    simp only [isSite, hinstruction, Instruction.isDirectCall_longForm,
      Instruction.method?_longForm]
  have hprevious : (site.mapCode longForm).previous?.bind Instruction.constant? =
      site.previous?.bind Instruction.constant? := by
    unfold Site.previous? Site.mapCode
    cases site.index with
    | zero => rfl
    | succ i =>
      simp only [MethodDef.mapCode_code, Array.getElem?_map]
      cases site.method.code[i]? <;> simp
  unfold patchSite
  rw [hsite, hprevious]
  rfl

/-- The edits of a site bring up instructions in the long form only. -/
theorem patchSite_fixed (method : DecryptMethod) (live : Live) (site : Site) (walk : Walk σ)
    {ps : List Patch} (h : (patchSite host method live site walk).1 = some ps) :
    ∀ p ∈ ps, p.instruction.longForm = p.instruction := by
  unfold patchSite at h
  split at h
  · cases h
  split at h
  · cases h
  · rename_i arg _
    simp only at h
    generalize (ask host live arg walk.oracle).value = answer at h
    cases hliteral : answer.bind fun v => (method.kind.literal v).mapError Error.message with
    | error reason => simp [hliteral] at h
    | ok load =>
      simp only [hliteral, Option.some.injEq] at h
      subst h
      have hload : load.longForm = load := by
        cases answer with
        | error reason => cases hliteral
        | ok v =>
          cases hkind : method.kind.literal v with
          | error e => simp [Except.bind, Except.mapError, hkind] at hliteral
          | ok load' =>
            simp only [Except.bind, Except.mapError, hkind, Except.ok.injEq] at hliteral
            exact hliteral ▸ LiteralKind.longForm_literal hkind
      simpa using ⟨rfl, hload⟩

theorem patch_longForm (method : DecryptMethod) (live : Live) (m : Module) (walk : Walk σ) :
    m.longForm.patch (patchSite host method live) walk =
      (m.patch (patchSite host method live) walk).mapCode longForm :=
  patch_mapCode (patchSite_longForm host method live)
    (fun site walk _ h => patchSite_fixed host method live site walk h) m walk

/-- The progress with all constants of its module in the long form. -/
def Progress.longForm (p : Progress σ) : Progress σ := { p with module := p.module.longForm }

theorem turn_longForm (method : DecryptMethod) (live : Live) (p : Progress σ) :
    p.longForm.turn host method live = (p.turn host method live).longForm := by
  have hedited := patch_longForm host method live p.module p.walk
  simp only [Progress.turn, Progress.longForm, hedited, Edited.mapCode]
  rfl

theorem decryptMethod_longForm (helper : DecryptHelper) (p : Progress σ)
    (method : DecryptMethod) : decryptMethod host numeric image helper p.longForm method =
      (decryptMethod host numeric image helper p method).longForm := by
  unfold decryptMethod
  cases oracleFor? numeric helper method with
  | none => rfl
  | some oracle =>
    have hreply : host.findMethod image helper.runtimeName oracle.name
        p.longForm.walk.oracle.host = methodReply host image helper oracle p := rfl
    have hreply' : host.findMethod image helper.runtimeName oracle.name
        p.walk.oracle.host = methodReply host image helper oracle p := rfl
    simp only [hreply, hreply']
    cases (methodReply host image helper oracle p).value with
    | false => rfl
    | true =>
      exact turn_longForm host method (liveMethod image helper oracle)
        (p.heard (methodReply host image helper oracle p))

theorem foldl_decryptMethod_longForm (helper : DecryptHelper) (l : List DecryptMethod)
    (p : Progress σ) : l.foldl (decryptMethod host numeric image helper) p.longForm =
      (l.foldl (decryptMethod host numeric image helper) p).longForm := by
  induction l generalizing p with
  | nil => rfl
  | cons method rest ih => rw [List.foldl_cons, List.foldl_cons, decryptMethod_longForm, ih]

theorem decryptHelpers_longForm (found : List DecryptHelper) (p : Progress σ) :
    decryptHelpers host numeric image found p.longForm =
      (decryptHelpers host numeric image found p).longForm := by
  induction found generalizing p with
  | nil => rfl
  | cons helper rest ih =>
    simp only [decryptHelpers]
    have hreply : host.findType image helper.runtimeName p.longForm.walk.oracle.host =
        typeReply host image helper p := rfl
    have hreply' : host.findType image helper.runtimeName p.walk.oracle.host =
        typeReply host image helper p := rfl
    simp only [hreply, hreply']
    cases (typeReply host image helper p).value with
    | false => rfl
    | true =>
      have hrest := ih (helper.methods.foldl (decryptMethod host numeric image helper)
        (p.heard (typeReply host image helper p)))
      rw [← foldl_decryptMethod_longForm] at hrest
      exact hrest

omit image in
theorem run_longForm (data : ByteArray) (m : Module) (o : Oracle σ) :
    run host data numeric m.longForm o =
      { run host data numeric m o with module := (run host data numeric m o).module.longForm } := by
  unfold run
  rw [helpers_longForm]
  simp only
  split
  · rfl
  cases (host.load data o.host).value with
  | error e => rfl
  | ok image =>
    have hdone := decryptHelpers_longForm host numeric image (helpers m).1
      (Progress.start host data m o)
    simp only [Progress.start, Progress.longForm] at hdone
    simp only [hdone]

end Decrypt

end Unmask
