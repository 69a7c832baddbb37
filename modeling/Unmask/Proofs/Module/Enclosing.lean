import Unmask.Proofs.Module.Depth

/-!
# The types around a type

`Enclosed` lists the types that a type stands in, with no bound on their number and no memory of
what was met. In a module with distinct tokens and without circles the three walks agree with it,
and so with each other: the walk for the name goes through these types, the walk for the depth
counts them, and downwards a type is collected from them and from itself and from nothing else. The
bound on the count and the tokens kept in mind, which are there for circles, cut nothing off.
-/

namespace Unmask

/-- What the namespace of a type puts before its name: itself and a dot, or nothing. -/
def TypeDef.qualifier (ty : TypeDef) : String :=
  if ty.namespaceName.isEmpty then "" else ty.namespaceName ++ "."

namespace Module

variable {m : Module} {ty parent p : TypeDef} {outer : List TypeDef}

/-- `ty` stands in the types `outer`, the innermost first, and the last of them stands in none. -/
inductive Enclosed (m : Module) : TypeDef → List TypeDef → Prop where
  | top {ty : TypeDef} (htop : m.parent? ty = none) : Enclosed m ty []
  | nested {ty parent : TypeDef} {outer : List TypeDef} (hparent : m.parent? ty = some parent)
      (houter : Enclosed m parent outer) : Enclosed m ty (parent :: outer)

theorem exists_enclosed (hacyclic : m.Acyclic) (hty : ty ∈ m.types) :
    ∃ outer, m.Enclosed ty outer := by
  induction hdepth : m.nestingDepth ty using Nat.strongRecOn generalizing ty with
  | ind n ih =>
    cases hparent : m.parent? ty with
    | none => exact ⟨[], .top hparent⟩
    | some parent =>
      have hlt : m.nestingDepth parent < n := by
        have hsucc := nestingDepth_eq_succ hacyclic hty hparent
        omega
      obtain ⟨outer, houter⟩ := ih _ hlt (parent?_mem hparent) rfl
      exact ⟨parent :: outer, .nested hparent houter⟩

/-! ## The chain -/

/-- Without circles, the tokens met on the way up are never met again, so that it does not matter
which of them are kept in mind. -/
theorem chainFrom_eq_chainFrom_nil (hacyclic : m.Acyclic) (fuel : Nat) {seen : List Token}
    (hty : ty ∈ m.types) (hseen : ∀ v ∈ seen, Relation.ReflTransGen m.NestedIn v ty.token) :
    m.chainFrom fuel seen ty = m.chainFrom fuel [] ty := by
  induction fuel generalizing seen ty with
  | zero => rfl
  | succ fuel ih =>
    unfold chainFrom
    cases hparent : m.parent? ty with
    | none => rfl
    | some parent =>
      obtain ⟨hnew, hwalked⟩ := walked_parent? hacyclic hty hparent hseen
      have hmem : parent ∈ m.types := parent?_mem hparent
      simp only [hnew, List.not_mem_nil, if_false, ih hmem hwalked,
        ih hmem (List.forall_mem_singleton.2 .refl)]

theorem enclosingChain_eq_singleton (htop : m.parent? ty = none) : m.enclosingChain ty = [ty] := by
  unfold enclosingChain
  cases m.types.length with
  | zero => rfl
  | succ n => rw [chainFrom, htop]

theorem enclosingChain_eq_cons (hacyclic : m.Acyclic) (hty : ty ∈ m.types)
    (hparent : m.parent? ty = some parent) :
    m.enclosingChain ty = ty :: m.enclosingChain parent := by
  obtain ⟨n, hn⟩ : ∃ n, m.types.length = n + 1 :=
    Nat.exists_eq_add_one.2 (List.length_pos_of_mem hty)
  have hunseen : m.unseen [parent.token] ≤ n := by
    have hlt := unseen_singleton_lt (parent?_mem hparent)
    omega
  calc m.enclosingChain ty = m.chainFrom (n + 1) [] ty := by
        rw [enclosingChain, hn]
        exact chainFrom_eq_chainFrom_nil hacyclic _ hty (List.forall_mem_singleton.2 .refl)
    _ = ty :: m.chainFrom n [parent.token] parent := by simp [chainFrom, hparent]
    _ = ty :: m.enclosingChain parent := by rw [enclosingChain, hn, chainFrom_succ hunseen]

theorem Enclosed.enclosingChain (h : m.Enclosed ty outer) (hacyclic : m.Acyclic)
    (hty : ty ∈ m.types) : m.enclosingChain ty = ty :: outer := by
  induction h with
  | top htop => exact enclosingChain_eq_singleton htop
  | nested hparent _ ih =>
    rw [enclosingChain_eq_cons hacyclic hty hparent, ih (parent?_mem hparent)]

/-! ## The depth -/

theorem nestingDepth_eq_zero (htop : m.parent? ty = none) : m.nestingDepth ty = 0 := by
  unfold nestingDepth
  cases m.types.length with
  | zero => rfl
  | succ n => rw [depthFrom, htop]

theorem Enclosed.nestingDepth (h : m.Enclosed ty outer) (hacyclic : m.Acyclic)
    (hty : ty ∈ m.types) : m.nestingDepth ty = outer.length := by
  induction h with
  | top htop => exact nestingDepth_eq_zero htop
  | nested hparent _ ih =>
    rw [nestingDepth_eq_succ hacyclic hty hparent, ih (parent?_mem hparent), List.length_cons]

/-! ## The name -/

theorem qualifiedName_of_top (htop : m.parent? ty = none) (separator : String) :
    m.qualifiedName separator ty = ty.qualifier ++ ty.name := by
  simp [qualifiedName, enclosingChain_eq_singleton htop, TypeDef.qualifier]

/-- The name of a nested type is the name of the type around it, a separator and its own. -/
theorem qualifiedName_of_parent (hacyclic : m.Acyclic) (hty : ty ∈ m.types)
    (hparent : m.parent? ty = some parent) (separator : String) :
    m.qualifiedName separator ty = m.qualifiedName separator parent ++ separator ++ ty.name := by
  obtain ⟨outer, houter⟩ := exists_enclosed hacyclic (parent?_mem hparent)
  have hchain := houter.enclosingChain hacyclic (parent?_mem hparent)
  have hne : (m.enclosingChain parent).reverse.map TypeDef.name ≠ [] := by simp [hchain]
  have hlast : (ty :: m.enclosingChain parent).getLast? = (m.enclosingChain parent).getLast? := by
    rw [hchain, List.getLast?_cons_cons]
  simp only [qualifiedName, enclosingChain_eq_cons hacyclic hty hparent, hlast, List.reverse_cons,
    List.map_append, List.map_singleton,
    String.intercalate_append_of_ne_nil hne (List.cons_ne_nil _ _), String.intercalate_singleton,
    String.append_assoc]

/-- The names from the outermost type inwards, a separator before each but the first. -/
theorem Enclosed.qualifiedName (h : m.Enclosed ty outer) (hacyclic : m.Acyclic)
    (hty : ty ∈ m.types) :
    ∃ outermost inner, (ty :: outer).reverse = outermost :: inner ∧
      ∀ separator, m.qualifiedName separator ty = outermost.qualifier ++ outermost.name ++
        String.join (inner.map fun u => separator ++ u.name) := by
  induction h with
  | @top ty htop =>
    refine ⟨ty, [], rfl, fun separator => ?_⟩
    rw [qualifiedName_of_top htop, List.map_nil, String.join_nil, String.append_empty]
  | @nested ty parent outer hparent _ ih =>
    obtain ⟨outermost, inner, hreverse, hname⟩ := ih (parent?_mem hparent)
    refine ⟨outermost, inner ++ [ty], ?_, fun separator => ?_⟩
    · rw [List.reverse_cons, hreverse, List.cons_append]
    · rw [qualifiedName_of_parent hacyclic hty hparent, hname, List.map_append, String.join_append]
      simp [String.append_assoc]

/-! ## The way down -/

theorem mem_tokens_of_reaches {t u : Token} (h : Relation.ReflTransGen m.NestedIn t u)
    (hu : u ∈ m.types.map TypeDef.token) : t ∈ m.types.map TypeDef.token := by
  cases h using Relation.ReflTransGen.head_induction_on with
  | refl => exact hu
  | head hstep _ => exact mem_tokens_of_nestedIn hstep

/-- With distinct tokens, what a type is nested in is the type itself or a type that the one around
it is nested in: a dangling end leads to no type. -/
theorem reaches_iff_parent? (htypes : (m.types.map TypeDef.token).Nodup) (hty : ty ∈ m.types)
    (hp : p ∈ m.types) :
    Relation.ReflTransGen m.NestedIn ty.token p.token ↔
      p = ty ∨ ∃ parent, m.parent? ty = some parent ∧
        Relation.ReflTransGen m.NestedIn parent.token p.token := by
  constructor
  · intro h
    rcases Relation.ReflTransGen.cases_head h with heq | ⟨u, ⟨ty', hty', htoken, henc⟩, hrest⟩
    · exact .inl (List.inj_on_of_nodup_map htypes hp hty heq.symm)
    · obtain rfl : ty' = ty := List.inj_on_of_nodup_map htypes hty' hty htoken
      obtain ⟨parent, hparent, rfl⟩ :=
        List.mem_map.1 (mem_tokens_of_reaches hrest (List.mem_map_of_mem hp))
      exact .inr ⟨parent, by simp [parent?, henc, typeDef?_of_mem htypes hparent], hrest⟩
  · rintro (rfl | ⟨parent, hparent, hrest⟩)
    · exact .refl
    · exact .head (nestedIn_of_parent? hty hparent) hrest

theorem Enclosed.reaches_iff (h : m.Enclosed ty outer)
    (htypes : (m.types.map TypeDef.token).Nodup) (hty : ty ∈ m.types) (hp : p ∈ m.types) :
    Relation.ReflTransGen m.NestedIn ty.token p.token ↔ p = ty ∨ p ∈ outer := by
  induction h with
  | top htop => simp [reaches_iff_parent? htypes hty hp, htop]
  | nested hparent _ ih =>
    simp [reaches_iff_parent? htypes hty hp, hparent, ih (parent?_mem hparent)]

/-- What is nested in another type is deeper than that one. -/
theorem nestingDepth_lt (htypes : (m.types.map TypeDef.token).Nodup) (hacyclic : m.Acyclic)
    (hty : ty ∈ m.types) (hp : p ∈ m.types) (hne : ty ≠ p)
    (h : Relation.ReflTransGen m.NestedIn ty.token p.token) :
    m.nestingDepth p < m.nestingDepth ty := by
  have htokens : p.token ≠ ty.token := by
    intro heq
    exact hne (List.inj_on_of_nodup_map htypes hty hp heq.symm)
  have hpath : Relation.TransGen m.NestedIn ty.token p.token :=
    (Relation.reflTransGen_iff_eq_or_transGen.1 h).resolve_left htokens
  have hlt := depthOf_lt htypes hacyclic hpath (List.mem_map_of_mem hp)
  rwa [depthOf_token htypes hp, depthOf_token htypes hty] at hlt

/-! ## Agreement -/

/-- In a module with distinct tokens and without circles, whatever dangles, the walks agree on the
types `outer` around a type `t`. The walk for the name goes from `t` through them and the walk for
the depth counts them. The name starts with the namespace of the outermost and goes on with the
names inwards, with as many separators between them as the depth says. Going down from a type comes
to `t` exactly if that type is `t` or one of `outer`, and then, but for `t` itself, `t` is the
deeper one. -/
theorem nesting_walks_agree (htypes : (m.types.map TypeDef.token).Nodup) (hacyclic : m.Acyclic)
    {t : TypeDef} (ht : t ∈ m.types) :
    ∃ outer, m.Enclosed t outer ∧ m.enclosingChain t = t :: outer ∧
      m.nestingDepth t = outer.length ∧
      (∃ outermost inner, (t :: outer).reverse = outermost :: inner ∧
        inner.length = m.nestingDepth t ∧
        ∀ separator, m.qualifiedName separator t = outermost.qualifier ++ outermost.name ++
          String.join (inner.map fun u => separator ++ u.name)) ∧
      ∀ p ∈ m.types, (t.token ∈ m.typeAndNested p.token ↔ p = t ∨ p ∈ outer) ∧
        (t ≠ p → t.token ∈ m.typeAndNested p.token → m.nestingDepth p < m.nestingDepth t) := by
  obtain ⟨outer, houter⟩ := exists_enclosed hacyclic ht
  have hdepth := houter.nestingDepth hacyclic ht
  obtain ⟨outermost, inner, hreverse, hname⟩ := houter.qualifiedName hacyclic ht
  have hinner : inner.length = outer.length := by
    simpa using (congrArg List.length hreverse).symm
  refine ⟨outer, houter, houter.enclosingChain hacyclic ht, hdepth,
    ⟨outermost, inner, hreverse, hinner.trans hdepth.symm, hname⟩, fun p hp => ⟨?_, ?_⟩⟩
  · rw [mem_typeAndNested_iff, houter.reaches_iff htypes ht hp]
  · intro hne hmem
    exact nestingDepth_lt htypes hacyclic ht hp hne (mem_typeAndNested_iff.1 hmem)

/-- A type nested in the type of token `enclosing`. -/
def stackedType (token enclosing : UInt32) (namespaceName name : String) : TypeDef where
  token := ⟨token⟩
  namespaceName := namespaceName
  name := name
  enclosing := some ⟨enclosing⟩

/-- All types stand in one another, the inner before the outer, and the outermost has a dangling
end: the chain is as long as it can be. -/
def stackedModule : Module where
  types := [stackedType 0x02000003 0x02000002 "Ignored" "Inner",
    stackedType 0x02000002 0x02000001 "" "Middle", stackedType 0x02000001 0x02000000 "App" "Outer"]

/-- The innermost of three types is two deep, and is reached from the outermost. -/
theorem nesting_walks_agree_stacked :
    let inner := stackedType 0x02000003 0x02000002 "Ignored" "Inner"
    let middle := stackedType 0x02000002 0x02000001 "" "Middle"
    let outer := stackedType 0x02000001 0x02000000 "App" "Outer"
    (stackedModule.types.map TypeDef.token).Nodup ∧ stackedModule.Acyclic ∧
      inner ∈ stackedModule.types ∧ stackedModule.Enclosed inner [middle, outer] ∧
      stackedModule.nestingDepth inner = 2 ∧
      stackedModule.qualifiedName "/" inner = "App.Outer/Middle/Inner" ∧
      inner.token ∈ stackedModule.typeAndNested outer.token ∧
      stackedModule.nestingDepth outer < stackedModule.nestingDepth inner := by
  intro inner middle outer
  have htypes : (stackedModule.types.map TypeDef.token).Nodup := by decide
  have hacyclic : stackedModule.Acyclic := acyclic_of_rank (fun t => t.val.toNat) (by decide)
  have hmem : inner ∈ stackedModule.types := by decide
  obtain ⟨around, henclosed, hchain, hdepth, ⟨outermost, within, hreverse, -, hname⟩, hdown⟩ :=
    nesting_walks_agree htypes hacyclic hmem
  have hwalked : stackedModule.enclosingChain inner = [inner, middle, outer] := by decide
  obtain rfl : around = [middle, outer] := List.tail_eq_of_cons_eq (hchain.symm.trans hwalked)
  obtain ⟨rfl, rfl⟩ : outer = outermost ∧ [middle, inner] = within := List.cons.inj hreverse
  obtain ⟨hreached, hdeeper⟩ := hdown outer (by decide)
  have hbelow : inner.token ∈ stackedModule.typeAndNested outer.token := hreached.2 (by decide)
  exact ⟨htypes, hacyclic, hmem, henclosed, hdepth, (hname "/").trans (by decide), hbelow,
    hdeeper (by decide) hbelow⟩

end Module

end Unmask
