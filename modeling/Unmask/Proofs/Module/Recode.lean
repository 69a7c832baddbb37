import Unmask.Proofs.Module.Bodies
import Unmask.Proofs.Module.Reduce
import Unmask.Module.Stack

/-!
# Edits and look-ups after a map of the instructions

A module whose instructions are mapped keeps its types, names and tables. Look-ups find in it the
mapped form of what they found before, and an edit that does not see the difference commutes with
the map.
-/

namespace Unmask

variable {σ : Type} {c : Instruction → Instruction}

/-! ## Edits -/

theorem mapState_map {α : Type} {f : α → σ → α × σ} {g : α → α}
    (h : ∀ a s, f (g a) s = (g (f a s).1, (f a s).2)) (l : List α) (s : σ) :
    mapState f (l.map g) s = ((mapState f l s).1.map g, (mapState f l s).2) := by
  induction l generalizing s with
  | nil => rfl
  | cons a rest ih => simp only [List.map_cons, mapState, h, ih]

theorem editMethods_mapCode {f : MethodDef → σ → MethodDef × σ}
    (h : ∀ d s, f (d.mapCode c) s = ((f d s).1.mapCode c, (f d s).2)) (m : Module) (s : σ) :
    (m.mapCode c).editMethods f s =
      ((m.editMethods f s).1.mapCode c, (m.editMethods f s).2) := by
  have htype : ∀ ty s, TypeDef.editMethods f (ty.mapCode c) s =
      ((TypeDef.editMethods f ty s).1.mapCode c, (TypeDef.editMethods f ty s).2) := by
    intro ty s
    simp only [TypeDef.editMethods, TypeDef.mapCode, mapState_map h]
  simp only [editMethods_eq, Module.mapCode, mapState_map htype]

def Scan.mapCode (c : Instruction → Instruction) (scan : Scan σ) : Scan σ :=
  { scan with body := scan.body.map c }

def Edited.mapCode (c : Instruction → Instruction) (edited : Edited σ) : Edited σ :=
  { edited with module := edited.module.mapCode c }

theorem foldl_step_mapCode {step step' : Scan σ → Nat → Scan σ}
    (h : ∀ scan i, step' (scan.mapCode c) i = (step scan i).mapCode c) (l : List Nat)
    (scan : Scan σ) : l.foldl step' (scan.mapCode c) = (l.foldl step scan).mapCode c := by
  induction l generalizing scan with
  | nil => rfl
  | cons i rest ih => rw [List.foldl_cons, h, ih, List.foldl_cons]

/-- A scan whose steps commute with the map commutes with it. -/
theorem scanModule_mapCode {step : MethodDef → Scan σ → Nat → Scan σ}
    (h : ∀ d scan i, step (d.mapCode c) (scan.mapCode c) i = (step d scan i).mapCode c)
    (m : Module) (s : σ) : scanModule step (m.mapCode c) s = (scanModule step m s).mapCode c := by
  have hmethod : ∀ d acc, scanMethod step (d.mapCode c) acc =
      ((scanMethod step d acc).1.mapCode c, (scanMethod step d acc).2) := by
    intro d acc
    cases hbody : d.body with
    | none => simp [scanMethod, MethodDef.mapCode, hbody]
    | some body =>
      have hscan := foldl_step_mapCode (h d) (List.range body.size)
        ⟨body, acc.1, acc.2.1, acc.2.2⟩
      unfold scanMethod
      simp only [MethodDef.mapCode, Scan.mapCode, hbody, Option.map_some, Array.size_map] at hscan ⊢
      simp only [hscan]
  have hmodule := editMethods_mapCode hmethod m (s, 0, [])
  have heq (m : Module) : scanModule step m s =
      ⟨(m.editMethods (scanMethod step) (s, 0, [])).1,
        (m.editMethods (scanMethod step) (s, 0, [])).2.1,
        (m.editMethods (scanMethod step) (s, 0, [])).2.2.1,
        (m.editMethods (scanMethod step) (s, 0, [])).2.2.2⟩ := rfl
  simp only [heq, hmodule, Edited.mapCode]

def Site.mapCode (c : Instruction → Instruction) (site : Site) : Site :=
  { site with method := site.method.mapCode c }

theorem applyPatches_map {ps : List Patch} (hfixed : ∀ p ∈ ps, c p.instruction = p.instruction)
    (body : Array Instruction) : applyPatches ps (body.map c) = (applyPatches ps body).map c := by
  unfold applyPatches
  induction ps generalizing body with
  | nil => rfl
  | cons p rest ih =>
    obtain ⟨hp, hrest⟩ := List.forall_mem_cons.1 hfixed
    rw [List.foldl_cons, List.foldl_cons, ← ih hrest, Array.map_setIfInBounds, hp]

/-- A patch that does not see the difference, and brings up nothing that the map changes. -/
theorem patch_mapCode {patcher : Patcher σ}
    (hpatcher : ∀ site s, patcher (site.mapCode c) s = patcher site s)
    (hfixed : ∀ site s ps, (patcher site s).1 = some ps →
      ∀ p ∈ ps, c p.instruction = p.instruction) (m : Module) (s : σ) :
    (m.mapCode c).patch patcher s = (m.patch patcher s).mapCode c := by
  refine scanModule_mapCode (fun d scan i => ?_) m s
  have hasked := hpatcher ⟨{ d with body := some scan.body }, i⟩ scan.state
  have hedits := hfixed ⟨{ d with body := some scan.body }, i⟩ scan.state
  unfold patchSlot
  change patcher ⟨{ d.mapCode c with body := some (scan.body.map c) }, i⟩ scan.state = _ at hasked
  simp only [Scan.mapCode, hasked, Array.size_map]
  generalize patcher ⟨{ d with body := some scan.body }, i⟩ scan.state = asked at hedits
  obtain ⟨edits, next⟩ := asked
  cases edits with
  | none => rfl
  | some ps => simp only [applyPatches_map (hedits ps rfl)]; rfl

/-- A replacement whose choice does not see the difference, and commutes with the map. -/
theorem replace_mapCode {choose : Chooser σ} {produce : Producer σ}
    (hchoose : ∀ d i s, choose (d.mapCode c) (c i) s = choose d i s)
    (hproduce : ∀ d i s, produce (d.mapCode c) (c i) s =
      (c (produce d i s).1, (produce d i s).2)) (m : Module) (s : σ) :
    (m.mapCode c).replace choose produce s = (m.replace choose produce s).mapCode c := by
  refine scanModule_mapCode (fun d scan n => ?_) m s
  unfold replaceSlot
  cases hold : scan.body[n]? with
  | none => simp [Scan.mapCode, hold]
  | some old =>
    have hchosen := hchoose { d with body := some scan.body } old scan.state
    have hproduced := hproduce { d with body := some scan.body } old
    simp only [Scan.mapCode, Array.getElem?_map, hold, Option.map_some]
    simp only [MethodDef.mapCode, Option.map_some] at hchosen hproduced ⊢
    rw [hchosen]
    rcases choose { d with body := some scan.body } old scan.state with ⟨_ | _, next⟩
    · rfl
    · simp only [hproduced, Array.map_setIfInBounds]

/-! ## Look-ups -/

namespace Module

variable (c) (m : Module)

theorem mapCode_eq_mapBodies : m.mapCode c = m.mapBodies (Array.map c) := rfl

theorem methods_mapCode : (m.mapCode c).methods = m.methods.map (MethodDef.mapCode c) :=
  m.methods_mapBodies (Array.map c)

theorem memberRef?_mapCode (t : Token) : (m.mapCode c).memberRef? t = m.memberRef? t := rfl

theorem typeDef?_mapCode (t : Token) :
    (m.mapCode c).typeDef? t = (m.typeDef? t).map (TypeDef.mapCode c) :=
  List.find?_map ..

theorem method?_mapCode (t : Token) :
    (m.mapCode c).method? t = (m.method? t).map (MethodDef.mapCode c) := by
  unfold method?
  rw [methods_mapCode, List.find?_map]
  split <;> rfl

theorem declaringType?_mapCode (t : Token) :
    (m.mapCode c).declaringType? t = (m.declaringType? t).map (TypeDef.mapCode c) := by
  show (m.types.map (TypeDef.mapCode c)).find? _ = _
  rw [List.find?_map]
  simp only [declaringType?, Function.comp_def, TypeDef.mapCode_methods, List.any_map]
  rfl

theorem methodSignature?_mapCode (t : Token) :
    (m.mapCode c).methodSignature? t = m.methodSignature? t :=
  (m.sameButBodies_mapBodies (Array.map c)).methodSignature?_eq t

theorem callEffect?_mapCode (i : Instruction) : (m.mapCode c).callEffect? i = m.callEffect? i := by
  unfold callEffect?
  rw [funext (m.methodSignature?_mapCode c)]

theorem qualifiedName_mapCode (separator : String) (ty : TypeDef) :
    (m.mapCode c).qualifiedName separator (ty.mapCode c) = m.qualifiedName separator ty :=
  m.qualifiedName_mapBodies separator ty

theorem fullName_mapCode (ty : TypeDef) : (m.mapCode c).fullName (ty.mapCode c) = m.fullName ty :=
  m.qualifiedName_mapCode c "/" ty

theorem displayName_mapCode (t : Token) : (m.mapCode c).displayName t = m.displayName t := by
  unfold displayName
  rw [method?_mapCode, declaringType?_mapCode, memberRef?_mapCode]
  cases m.method? t with
  | none => rfl
  | some d =>
    cases m.declaringType? t with
    | none => rfl
    | some ty => simp only [Option.map_some, fullName_mapCode]; rfl

theorem depthFrom_mapCode (fuel : Nat) (ty : TypeDef) :
    (m.mapCode c).depthFrom fuel (ty.mapCode c) = m.depthFrom fuel ty := by
  induction fuel generalizing ty with
  | zero => rfl
  | succ fuel ih =>
    have hparent : (m.mapCode c).parent? (ty.mapCode c) =
        (m.parent? ty).map (TypeDef.mapCode c) := m.parent?_mapBodies ty
    unfold depthFrom
    rw [hparent]
    cases m.parent? ty with
    | none => rfl
    | some parent => simp only [Option.map_some, ih]

theorem nestingDepth_mapCode (ty : TypeDef) :
    (m.mapCode c).nestingDepth (ty.mapCode c) = m.nestingDepth ty := by
  have hlength : (m.mapCode c).types.length = m.types.length := List.length_map _
  unfold nestingDepth
  rw [hlength, depthFrom_mapCode]

theorem removeType_mapCode (t : Token) : (m.mapCode c).removeType t =
    (m.removeType t).map fun removed => (removed.1, removed.2.mapCode c) := by
  unfold removeType
  rw [typeDef?_mapCode, typeAndNested_mapCode]
  cases m.typeDef? t with
  | none => rfl
  | some ty =>
    simp only [Option.map_some, Except.map, mapCode, List.filter_map]
    rfl

/-- A reference resolves as it did. -/
theorem resolveWith_mapCode (references : List Module) (r : MemberRef) :
    resolveWith references (m.mapCode c) r = resolveWith references m r := by
  have hclosed : NestingClosed m.types [] := fun _ _ _ h => absurd h List.not_mem_nil
  have hdefinitions := definitions_reduce (f := c) hclosed r
  rw [reduce_nil] at hdefinitions
  rw [resolveWith_eq, resolveWith_eq, List.flatMap_cons, List.flatMap_cons, hdefinitions]
  simp

end Module

end Unmask
