import Unmask.Proofs.Module.Depth

/-!
# Taking out a type

A type is taken out with everything nested in it and with nothing else. Nothing is assumed of the
module. Tokens may repeat, and then all types of a token go or stay together; the enclosing relation
may have circles and dangling ends. Whatever stays stands in types that stay, so that the walk for
its name is the one it was.
-/

namespace Unmask.Module

/-- The module that someone is left with who asks for a removal, be it made or refused. -/
def afterRemoval (m : Module) (t : Token) : Module :=
  match m.removeType t with
  | .error _ => m
  | .ok (_, m') => m'

/-- `m'` is `m` without the types of the tokens in `gone`, which are `t` and all that is nested in
it. -/
structure SubtreeRemoved (m : Module) (t : Token) (gone : List Token) (m' : Module) : Prop where
  nodup : gone.Nodup
  head : gone.head? = some t
  mem_gone : ∀ u, u ∈ gone ↔ Relation.ReflTransGen m.NestedIn u t
  name : m'.name = m.name
  memberRefs : m'.memberRefs = m.memberRefs
  types : m'.types = m.types.filter fun ty => ty.token ∉ gone
  enclosing : ∀ ty ∈ m'.types, ∀ parent ∈ ty.enclosing, parent ∉ gone
  fullName : ∀ ty ∈ m'.types, m'.fullName ty = m.fullName ty
  reflectionName : ∀ ty ∈ m'.types, m'.reflectionName ty = m.reflectionName ty

variable {m m' : Module} {t : Token} {gone : List Token}

theorem typeDef?_eq_none_iff : m.typeDef? t = none ↔ ∀ ty ∈ m.types, ty.token ≠ t := by
  simp [typeDef?]

theorem removeType_error_iff {e : Error} :
    m.removeType t = .error e ↔ e = .tokenNotFound t ∧ ∀ ty ∈ m.types, ty.token ≠ t := by
  rw [← typeDef?_eq_none_iff, removeType]
  cases m.typeDef? t with
  | none => simp [eq_comm]
  | some ty => simp

/-- A removal is a reduction that leaves the instructions alone. -/
theorem removeType_eq_ok (h : m.removeType t = .ok (gone, m')) :
    gone = m.typeAndNested t ∧ m' = m.reduce id gone := by
  unfold removeType at h
  cases hfound : m.typeDef? t with
  | none => simp [hfound] at h
  | some ty =>
    simp only [hfound, Except.ok.injEq, Prod.mk.injEq] at h
    obtain ⟨rfl, rfl⟩ := h
    simp [reduce, funext TypeDef.mapCode_id]

theorem removeType_closed (h : m.removeType t = .ok (gone, m')) : NestingClosed m.types gone := by
  rw [(removeType_eq_ok h).1]
  exact m.typeAndNested_closed t

/-- What stays of a module without whole nesting trees keeps its qualified names. -/
theorem qualifiedName_removeType (h : m.removeType t = .ok (gone, m')) (separator : String)
    {ty : TypeDef} (hty : ty ∈ m'.types) :
    m'.qualifiedName separator ty = m.qualifiedName separator ty := by
  have hclosed := removeType_closed h
  obtain ⟨-, rfl⟩ := removeType_eq_ok h
  obtain ⟨kept, hkept, hstays, rfl⟩ := mem_types_reduce.1 hty
  rw [qualifiedName_reduce hclosed separator hkept hstays, TypeDef.mapCode_id]

theorem subtreeRemoved (h : m.removeType t = .ok (gone, m')) : SubtreeRemoved m t gone m' := by
  have hclosed := removeType_closed h
  obtain ⟨hgone, hm'⟩ := removeType_eq_ok h
  have htypes : m'.types = m.types.filter fun ty => ty.token ∉ gone := by
    simp [hm', reduce, funext TypeDef.mapCode_id]
  exact
    { nodup := hgone ▸ m.typeAndNested_nodup t
      head := by rw [hgone, typeAndNested_eq_cons]; rfl
      mem_gone := fun u => hgone ▸ mem_typeAndNested_iff
      name := by rw [hm', reduce_name]
      memberRefs := by rw [hm', reduce_memberRefs]
      types := htypes
      enclosing := by
        intro ty hty parent henc hparent
        rw [htypes, List.mem_filter] at hty
        obtain ⟨hmem, hkept⟩ := hty
        exact of_decide_eq_true hkept (hclosed ty hmem parent hparent henc)
      fullName := fun ty hty => qualifiedName_removeType h "/" hty
      reflectionName := fun ty hty => qualifiedName_removeType h "+" hty }

/-- A removal is refused exactly if no type has the token, and then the module stays as it is.
Otherwise the tokens removed are listed once each, the one asked for first, and they are those that
are reached from it by going from an enclosing type to a nested one. The types of other tokens stay,
in their order and as they were; none of them stands in a type that is gone, and all keep their
names. -/
theorem removeType_subtree (m : Module) (t : Token) :
    (m.removeType t = .error (.tokenNotFound t) ↔ ∀ ty ∈ m.types, ty.token ≠ t) ∧
      match m.removeType t with
      | .error e => e = .tokenNotFound t ∧ m.afterRemoval t = m
      | .ok (gone, m') => m.afterRemoval t = m' ∧ SubtreeRemoved m t gone m' := by
  constructor
  · rw [removeType_error_iff]
    exact and_iff_right rfl
  · cases h : m.removeType t with
    | error e =>
      refine ⟨(removeType_error_iff.1 h).1, ?_⟩
      simp only [afterRemoval, h]
    | ok removed =>
      refine ⟨?_, subtreeRemoved h⟩
      simp only [afterRemoval, h]

/-- Two types of one token in a circle, a type nested in them and one with a dangling end: all but
the last are reached from the circle. -/
example :
    let ty (token enclosing : UInt32) : TypeDef :=
      { token := ⟨token⟩, name := "T", enclosing := some ⟨enclosing⟩ }
    let m : Module := { types := [ty 1 2, ty 3 1, ty 2 1, ty 4 9, ty 1 9] }
    (m.removeType ⟨2⟩).map (·.1) = .ok [⟨2⟩, ⟨1⟩, ⟨3⟩] ∧
      m.afterRemoval ⟨2⟩ = { types := [ty 4 9] } := by
  decide

end Unmask.Module
