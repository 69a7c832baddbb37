import Mathlib.Logic.Relation
import Unmask.Proofs.Module.Reduce

/-!
# Nesting as a relation

What `typeAndNested` collects is what reaches the type along the enclosing relation. If no type is
nested in itself, the upward walks never meet a token again, so that their fuel does not matter: a
type is one deeper than the type it stands in, and whatever is nested in a type is deeper than it.
-/

namespace Unmask.Module

variable {m : Module} {t u : Token} {ty : TypeDef}

/-- A type of token `t` stands directly in the type `parent`, be that one declared or not. -/
def NestedIn (m : Module) (t parent : Token) : Prop :=
  ∃ ty ∈ m.types, ty.token = t ∧ ty.enclosing = some parent

/-- No type is nested in itself, at any depth. -/
def Acyclic (m : Module) : Prop := ∀ t, ¬ Relation.TransGen m.NestedIn t t

theorem mem_tokens_of_nestedIn (h : m.NestedIn t u) : t ∈ m.types.map TypeDef.token := by
  obtain ⟨ty, hty, rfl, -⟩ := h
  exact List.mem_map_of_mem hty

/-- A rank that grows inwards rules out circles. -/
theorem acyclic_of_rank (rank : Token → Nat)
    (h : ∀ ty ∈ m.types, ∀ parent ∈ ty.enclosing, rank parent < rank ty.token) : m.Acyclic := by
  have hstep : ∀ t u, m.NestedIn t u → rank u < rank t := by
    rintro _ u ⟨ty, hty, rfl, henc⟩
    exact h ty hty u henc
  have hpath : ∀ t u, Relation.TransGen m.NestedIn t u → rank u < rank t := by
    intro t u htu
    induction htu with
    | single htu => exact hstep _ _ htu
    | tail _ hlast ih => exact Nat.lt_trans (hstep _ _ hlast) ih
  exact fun t htt => Nat.lt_irrefl _ (hpath t t htt)

/-- A reduction nests nothing that was not nested before. -/
theorem Reduces.nestedIn {m' : Module} (h : m.Reduces m') (htu : m'.NestedIn t u) :
    m.NestedIn t u := by
  obtain ⟨ty', hty', rfl, henc⟩ := htu
  obtain ⟨f, ty, hty, rfl⟩ := h.exists_type hty'
  exact ⟨ty, hty, rfl, henc⟩

/-! ## Downwards -/

theorem reaches_of_mem_closeNested {fuel i : Nat} {found : List Token}
    (h : ∀ v ∈ found, Relation.ReflTransGen m.NestedIn v t)
    (hu : u ∈ closeNested m.types fuel i found) : Relation.ReflTransGen m.NestedIn u t := by
  induction fuel generalizing i found with
  | zero => exact h u hu
  | succ fuel ih =>
    unfold closeNested at hu
    split at hu
    · exact h u hu
    · rename_i parent hparent
      refine ih (fun v hv => ?_) hu
      rcases mem_addNested.1 hv with hold | ⟨ty, hty, henc, rfl⟩
      · exact h v hold
      · exact .head ⟨ty, hty, rfl, henc⟩ (h parent (List.mem_of_getElem? hparent))

/-- What is taken out with a type is nested in it. -/
theorem reaches_of_mem_typeAndNested (h : u ∈ m.typeAndNested t) :
    Relation.ReflTransGen m.NestedIn u t := by
  refine reaches_of_mem_closeNested (fun v hv => ?_) h
  rw [List.mem_singleton.1 hv]

/-- What is taken out with a type is exactly what is nested in it, and the type. -/
theorem mem_typeAndNested_iff :
    u ∈ m.typeAndNested t ↔ Relation.ReflTransGen m.NestedIn u t := by
  refine ⟨reaches_of_mem_typeAndNested, fun h => ?_⟩
  induction h using Relation.ReflTransGen.head_induction_on with
  | refl =>
    rw [typeAndNested_eq_cons]
    exact List.mem_cons_self
  | head hstep _ ih =>
    obtain ⟨ty, hty, rfl, henc⟩ := hstep
    exact m.typeAndNested_closed t ty hty _ ih henc

/-! ## Upwards -/

theorem nestedIn_of_parent? {parent : TypeDef} (hty : ty ∈ m.types)
    (h : m.parent? ty = some parent) : m.NestedIn ty.token parent.token := by
  obtain ⟨v, henc, hv⟩ := Option.bind_eq_some_iff.1 h
  obtain rfl : parent.token = v := by simpa using List.find?_some hv
  exact ⟨ty, hty, rfl, henc⟩

/-- Without circles, a step up leads from the tokens met so far to a new one. -/
theorem walked_parent? (hacyclic : m.Acyclic) {parent : TypeDef} (hty : ty ∈ m.types)
    (h : m.parent? ty = some parent) {seen : List Token}
    (hseen : ∀ v ∈ seen, Relation.ReflTransGen m.NestedIn v ty.token) :
    parent.token ∉ seen ∧
      ∀ v ∈ parent.token :: seen, Relation.ReflTransGen m.NestedIn v parent.token := by
  have hstep : m.NestedIn ty.token parent.token := nestedIn_of_parent? hty h
  refine ⟨fun hmem => ?_, fun v hv => ?_⟩
  · exact hacyclic _ ((Relation.TransGen.single hstep).trans_left (hseen _ hmem))
  · rcases List.mem_cons.1 hv with rfl | hv
    · exact .refl
    · exact (hseen v hv).tail hstep

/-- Without circles, the walk for the name takes the steps that the walk for the depth counts. -/
theorem length_chainFrom (hacyclic : m.Acyclic) (fuel : Nat) {seen : List Token}
    (hty : ty ∈ m.types) (hseen : ∀ v ∈ seen, Relation.ReflTransGen m.NestedIn v ty.token) :
    (m.chainFrom fuel seen ty).length = m.depthFrom fuel ty + 1 := by
  induction fuel generalizing seen ty with
  | zero => rfl
  | succ fuel ih =>
    unfold chainFrom depthFrom
    cases hparent : m.parent? ty with
    | none => rfl
    | some parent =>
      obtain ⟨hnew, hwalked⟩ := walked_parent? hacyclic hty hparent hseen
      simp only [hnew, if_false, List.length_cons, ih (parent?_mem hparent) hwalked]

/-- Without circles, all the fuel but for the type itself is enough to find the depth. -/
theorem depthFrom_eq_nestingDepth (hacyclic : m.Acyclic) (hty : ty ∈ m.types) {fuel : Nat}
    (hfuel : m.types.length ≤ fuel + 1) : m.depthFrom fuel ty = m.nestingDepth ty := by
  have hunseen : m.unseen [ty.token] < m.types.length := unseen_singleton_lt hty
  have hlen : ∀ n, m.unseen [ty.token] ≤ n →
      m.depthFrom n ty + 1 = (m.chainFrom (m.unseen [ty.token]) [ty.token] ty).length := by
    intro n hn
    obtain ⟨k, rfl⟩ := Nat.exists_eq_add_of_le hn
    rw [← chainFrom_add (Nat.le_refl _) k]
    refine (length_chainFrom hacyclic _ hty fun v hv => ?_).symm
    rw [List.mem_singleton.1 hv]
  have hleft := hlen fuel (by omega)
  have hright := hlen m.types.length (by omega)
  unfold nestingDepth
  omega

theorem nestingDepth_eq_succ (hacyclic : m.Acyclic) (hty : ty ∈ m.types) {parent : TypeDef}
    (h : m.parent? ty = some parent) : m.nestingDepth ty = m.nestingDepth parent + 1 := by
  obtain ⟨n, hn⟩ : ∃ n, m.types.length = n + 1 :=
    Nat.exists_eq_add_one.2 (List.length_pos_of_mem hty)
  have hparent : m.depthFrom n parent = m.nestingDepth parent :=
    depthFrom_eq_nestingDepth hacyclic (parent?_mem h) (Nat.le_of_eq hn)
  rw [← hparent, nestingDepth, hn, depthFrom, h]

/-- The depth of the first type with the token. -/
def depthOf (m : Module) (t : Token) : Nat := ((m.typeDef? t).map m.nestingDepth).getD 0

theorem depthOf_token (htypes : (m.types.map TypeDef.token).Nodup) (hty : ty ∈ m.types) :
    m.depthOf ty.token = m.nestingDepth ty := by
  simp [depthOf, typeDef?_of_mem htypes hty]

theorem depthOf_lt_of_nestedIn (htypes : (m.types.map TypeDef.token).Nodup)
    (hacyclic : m.Acyclic) (h : m.NestedIn t u) (hu : u ∈ m.types.map TypeDef.token) :
    m.depthOf u < m.depthOf t := by
  obtain ⟨ty, hty, rfl, henc⟩ := h
  obtain ⟨parent, hparent, rfl⟩ := List.mem_map.1 hu
  have hup : m.parent? ty = some parent := by
    simp [parent?, henc, typeDef?_of_mem htypes hparent]
  rw [depthOf_token htypes hty, depthOf_token htypes hparent,
    nestingDepth_eq_succ hacyclic hty hup]
  exact Nat.lt_succ_self _

/-- What is nested in a type is deeper than the type. -/
theorem depthOf_lt (htypes : (m.types.map TypeDef.token).Nodup) (hacyclic : m.Acyclic)
    (h : Relation.TransGen m.NestedIn t u) (hu : u ∈ m.types.map TypeDef.token) :
    m.depthOf u < m.depthOf t := by
  induction h with
  | single h => exact depthOf_lt_of_nestedIn htypes hacyclic h hu
  | tail _ hlast ih =>
    exact Nat.lt_trans (depthOf_lt_of_nestedIn htypes hacyclic hlast hu)
      (ih (mem_tokens_of_nestedIn hlast))

end Unmask.Module
