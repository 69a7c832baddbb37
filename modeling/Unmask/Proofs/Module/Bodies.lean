import Unmask.Proofs.Module.Frame

/-!
# Mapping the bodies

An edit whose outcome in a body depends on the body alone is a map over the bodies of a module. It
leaves the types where they are, so they keep their names.
-/

namespace Unmask

variable {f g : Array Instruction → Array Instruction}

def MethodDef.mapBody (f : Array Instruction → Array Instruction) (d : MethodDef) : MethodDef :=
  { d with body := d.body.map f }

def TypeDef.mapBodies (f : Array Instruction → Array Instruction) (ty : TypeDef) : TypeDef :=
  { ty with methods := ty.methods.map (MethodDef.mapBody f) }

def Module.mapBodies (f : Array Instruction → Array Instruction) (m : Module) : Module :=
  { m with types := m.types.map (TypeDef.mapBodies f) }

namespace MethodDef

@[simp] theorem mapBody_token (f : Array Instruction → Array Instruction) (d : MethodDef) :
    (d.mapBody f).token = d.token := rfl

/-- A method without a body has no slots, which a map has to keep. -/
theorem mapBody_code (hempty : f #[] = #[]) (d : MethodDef) : (d.mapBody f).code = f d.code := by
  unfold code mapBody
  cases d.body with
  | none => exact hempty.symm
  | some body => rfl

theorem mapBody_id (d : MethodDef) : d.mapBody id = d := by
  cases d
  simp [mapBody]

theorem mapBody_mapBody (d : MethodDef) : (d.mapBody f).mapBody g = d.mapBody (g ∘ f) := by
  simp [mapBody, Function.comp_def]

theorem mapBody_eq_self_iff (hempty : f #[] = #[]) (d : MethodDef) :
    d.mapBody f = d ↔ f d.code = d.code := by
  rw [← mapBody_code hempty]
  constructor
  · intro h
    rw [h]
  · intro h
    have hbody : (d.mapBody f).body = d.body := by
      unfold code mapBody at h
      cases hcode : d.body with
      | none => simp [mapBody, hcode]
      | some body => simpa [mapBody, hcode] using h
    cases d
    simp_all [mapBody]

end MethodDef

namespace TypeDef

theorem mapBodies_id (ty : TypeDef) : ty.mapBodies id = ty := by
  cases ty
  simp [mapBodies, funext MethodDef.mapBody_id]

theorem mapBodies_mapBodies (ty : TypeDef) :
    (ty.mapBodies f).mapBodies g = ty.mapBodies (g ∘ f) := by
  simp [mapBodies, Function.comp_def, MethodDef.mapBody_mapBody]

theorem staticConstructor?_mapBodies (ty : TypeDef) :
    (ty.mapBodies f).staticConstructor? = ty.staticConstructor?.map (MethodDef.mapBody f) :=
  List.find?_map ..

/-- Maps whose outcomes are related relate the bodies. -/
theorem framed_mapBodies {R : Array Instruction → Array Instruction → Prop}
    (h : ∀ body, R (f body) (g body)) (ty : TypeDef) :
    Framed R (ty.mapBodies f) (ty.mapBodies g) := by
  refine ⟨rfl, rfl, rfl, rfl, rfl, rfl, List.forall₂_map_left_iff.2 (List.forall₂_map_right_iff.2
    (List.forall₂_same.2 fun d _ => ⟨rfl, rfl, rfl, rfl, ?_⟩))⟩
  show Option.Rel R (d.body.map f) (d.body.map g)
  cases d.body with
  | none => exact .none
  | some body => exact .some (h body)

theorem framed_self_mapBodies (f : Array Instruction → Array Instruction) (ty : TypeDef) :
    Framed (fun _ _ => True) ty (ty.mapBodies f) := by
  have hty := framed_mapBodies (f := id) (g := f) (R := fun _ _ => True) (fun _ => trivial) ty
  rwa [mapBodies_id] at hty

end TypeDef

namespace Module

variable {m : Module}

theorem mapBodies_id (m : Module) : m.mapBodies id = m := by
  cases m
  simp [mapBodies, funext TypeDef.mapBodies_id]

theorem mapBodies_mapBodies (m : Module) : (m.mapBodies f).mapBodies g = m.mapBodies (g ∘ f) := by
  simp [mapBodies, Function.comp_def, TypeDef.mapBodies_mapBodies]

theorem methods_mapBodies (f : Array Instruction → Array Instruction) (m : Module) :
    (m.mapBodies f).methods = m.methods.map (MethodDef.mapBody f) := by
  simp [methods, mapBodies, TypeDef.mapBodies, List.flatMap_map, List.map_flatMap]

theorem forall₂_mapBodies {R : Array Instruction → Array Instruction → Prop}
    (h : ∀ body, R (f body) (g body)) (m : Module) :
    List.Forall₂ (TypeDef.Framed R) (m.mapBodies f).types (m.mapBodies g).types :=
  List.forall₂_map_left_iff.2 (List.forall₂_map_right_iff.2
    (List.forall₂_same.2 fun ty _ => ty.framed_mapBodies h))

theorem sameButBodies_mapBodies (f : Array Instruction → Array Instruction) (m : Module) :
    m.SameButBodies (m.mapBodies f) where
  name := rfl
  memberRefs := rfl
  types := List.forall₂_map_right_iff.2 (List.forall₂_same.2 fun ty _ => ty.framed_self_mapBodies f)

/-- A map that fixes every body changes nothing. -/
theorem mapBodies_eq_self_iff (hempty : f #[] = #[]) :
    m.mapBodies f = m ↔ ∀ d ∈ m.methods, f d.code = d.code := by
  constructor
  · intro h d hd
    have hmethods : m.methods.map (MethodDef.mapBody f) = m.methods.map id := by
      rw [← methods_mapBodies, h, List.map_id]
    exact (d.mapBody_eq_self_iff hempty).1 (List.map_inj_left.1 hmethods d hd)
  · intro h
    refine (m.sameButBodies_mapBodies f).eq_of_methods_eq ?_
    rw [methods_mapBodies]
    exact (List.map_congr_left fun d hd => (d.mapBody_eq_self_iff hempty).2 (h d hd)).trans
      (List.map_id _)

/-- With distinct tokens, the body after the map is found by the token. -/
theorem code_of_mem_mapBodies (hempty : f #[] = #[])
    (hmethods : (m.methods.map MethodDef.token).Nodup) {d d' : MethodDef} (hd : d ∈ m.methods)
    (hd' : d' ∈ (m.mapBodies f).methods) (htoken : d'.token = d.token) : d'.code = f d.code := by
  rw [methods_mapBodies] at hd'
  obtain ⟨e, he, rfl⟩ := List.mem_map.1 hd'
  obtain rfl := List.inj_on_of_nodup_map hmethods he hd htoken
  exact MethodDef.mapBody_code hempty e

/-! ## Names -/

theorem parent?_mapBodies (m : Module) (ty : TypeDef) :
    (m.mapBodies f).parent? (ty.mapBodies f) = (m.parent? ty).map (TypeDef.mapBodies f) := by
  show ty.enclosing.bind (m.mapBodies f).typeDef? = _
  unfold parent?
  cases ty.enclosing with
  | none => rfl
  | some parent => exact List.find?_map ..

theorem qualifiedName_mapBodies (m : Module) (separator : String) (ty : TypeDef) :
    (m.mapBodies f).qualifiedName separator (ty.mapBodies f) = m.qualifiedName separator ty :=
  (m.sameButBodies_mapBodies f).qualifiedName separator (ty.framed_self_mapBodies f)

end Module

/-! ## Edits that depend on the body alone -/

/-- A patch that makes of each body what `f` says is a map over the bodies. -/
theorem patch_module {σ : Type} {patcher : Patcher σ}
    (h : ∀ d (scan : Scan σ), ((List.range scan.body.size).foldl (patchSlot patcher d) scan).body =
      f scan.body) (m : Module) (s : σ) : (m.patch patcher s).module = m.mapBodies f := by
  refine editMethods_eq_map (f := scanMethod (patchSlot patcher)) (fun d acc => ?_) m (s, 0, [])
  cases hbody : d.body with
  | none =>
    cases d
    simp_all [scanMethod, MethodDef.mapBody]
  | some body => simp [scanMethod, hbody, h, MethodDef.mapBody]

end Unmask
