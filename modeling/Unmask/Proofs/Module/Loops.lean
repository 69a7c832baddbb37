import Unmask.Proofs.Module.Nesting

/-!
# The walks as loops

The walks along the enclosing relation are written with a bound. Here each of them is a loop without
one: a function for a single round, repeated until it leaves. On every module, whatever its circles,
dangling ends and repeated tokens, the three loops leave, and with what the bounded walks return, so
that no walk ends because its bound is used up. What runs out is different for each: the tokens that
the walk for the name has not met, the types that the walk for the depth may still count, and the
tokens that the way down has listed and not yet visited.
-/

namespace Unmask

/-- A round of a loop ends with the state for the next round, or leaves the loop with a result. -/
inductive LoopRound (σ ρ : Type) where
  | next (s : σ)
  | leave (r : ρ)

/-- Repeating `round` from the state `s` leaves in round `n` with the result `r`. -/
inductive Leaves {σ ρ : Type} (round : σ → LoopRound σ ρ) : Nat → σ → ρ → Prop where
  | now {s : σ} {r : ρ} (h : round s = .leave r) : Leaves round 1 s r
  | later {n : Nat} {s s' : σ} {r : ρ} (h : round s = .next s') (hlater : Leaves round n s' r) :
      Leaves round (n + 1) s r

namespace Module

variable {m : Module} {ty : TypeDef} {seen : List Token} {fuel : Nat}

/-! ## The name -/

/-- The walk for the name: the chain up to the type it has come to, and the tokens it has met. -/
structure NameWalk where
  chain : List TypeDef
  seen : List Token
  current : TypeDef

/-- On to the type around the current one, unless there is none or its token was met. -/
def nameRound (m : Module) (w : NameWalk) : LoopRound NameWalk (List TypeDef) :=
  match m.parent? w.current with
  | none => .leave w.chain
  | some parent =>
    if parent.token ∈ w.seen then .leave w.chain
    else .next ⟨w.chain ++ [parent], parent.token :: w.seen, parent⟩

/-- With fuel for all tokens not met yet, a step up uses none of it. -/
theorem chainFrom_unfold (h : m.unseen seen ≤ fuel) :
    m.chainFrom fuel seen ty =
      match m.parent? ty with
      | none => [ty]
      | some parent =>
        if parent.token ∈ seen then [ty]
        else ty :: m.chainFrom fuel (parent.token :: seen) parent := by
  rw [← chainFrom_succ h]
  rfl

theorem leaves_nameRound (h : m.unseen seen ≤ fuel) (before : List TypeDef) :
    Leaves m.nameRound (m.chainFrom fuel seen ty).length ⟨before ++ [ty], seen, ty⟩
      (before ++ m.chainFrom fuel seen ty) := by
  -- each step up leaves fewer tokens that were not met
  induction hn : m.unseen seen using Nat.strongRecOn generalizing seen ty before with
  | ind n ih =>
    rw [chainFrom_unfold h]
    cases hparent : m.parent? ty with
    | none => exact .now (by simp [nameRound, hparent])
    | some parent =>
      by_cases hseen : parent.token ∈ seen
      · simp only [hseen, if_true]
        exact .now (by simp [nameRound, hparent, hseen])
      · have hlt := unseen_cons_lt (parent?_mem hparent) hseen
        have hlater : Leaves m.nameRound (m.chainFrom fuel (parent.token :: seen) parent).length
            ⟨(before ++ [ty]) ++ [parent], parent.token :: seen, parent⟩
            ((before ++ [ty]) ++ m.chainFrom fuel (parent.token :: seen) parent) :=
          ih _ (hn ▸ hlt) (by omega) _ rfl
        rw [List.append_assoc before [ty] (m.chainFrom _ _ _)] at hlater
        simp only [hseen, if_false]
        exact .later (by simp only [nameRound, hparent, hseen, if_false]) hlater

/-- What is added to the chain has a token that was not met before. -/
theorem nodup_chainFrom (m : Module) (fuel : Nat) (ty : TypeDef) (hseen : seen.Nodup) :
    ∃ outer, m.chainFrom fuel seen ty = ty :: outer ∧
      (seen.reverse ++ outer.map TypeDef.token).Nodup := by
  induction fuel generalizing seen ty with
  | zero => exact ⟨[], rfl, by simpa using hseen⟩
  | succ fuel ih =>
    unfold chainFrom
    cases m.parent? ty with
    | none => exact ⟨[], rfl, by simpa using hseen⟩
    | some parent =>
      by_cases hmet : parent.token ∈ seen
      · exact ⟨[], by simp [hmet], by simpa using hseen⟩
      · obtain ⟨outer, houter, hnodup⟩ := ih parent (List.nodup_cons.2 ⟨hmet, hseen⟩)
        refine ⟨parent :: outer, by simp [hmet, houter], ?_⟩
        simpa using hnodup

theorem enclosingChain_nodup (m : Module) (ty : TypeDef) :
    ((m.enclosingChain ty).map TypeDef.token).Nodup := by
  obtain ⟨outer, houter, hnodup⟩ :=
    m.nodup_chainFrom m.types.length ty (List.nodup_singleton ty.token)
  rw [enclosingChain, houter]
  exact hnodup

theorem length_chainFrom_le (m : Module) (fuel : Nat) (seen : List Token) (ty : TypeDef) :
    (m.chainFrom fuel seen ty).length ≤ fuel + 1 := by
  induction fuel generalizing seen ty with
  | zero => exact Nat.le_refl 1
  | succ fuel ih =>
    unfold chainFrom
    cases m.parent? ty with
    | none => simp
    | some parent =>
      by_cases hmet : parent.token ∈ seen
      · simp [hmet]
      · simpa [hmet] using ih (parent.token :: seen) parent

/-! ## The depth -/

/-- The state is what was counted so far, with the type that is counted next. -/
def depthRound (m : Module) : Nat × Option TypeDef → LoopRound (Nat × Option TypeDef) Nat
  | (depth, none) => .leave depth
  | (depth, some parent) =>
    if m.types.length ≤ depth + 1 then .leave (depth + 1)
    else .next (depth + 1, m.parent? parent)

theorem leaves_depthRound (depth : Nat) (ty : TypeDef) (hfuel : depth + fuel = m.types.length)
    (hcount : 0 < fuel ∨ m.parent? ty = none) :
    ∃ n ≤ m.depthFrom fuel ty + 1,
      Leaves m.depthRound n (depth, m.parent? ty) (depth + m.depthFrom fuel ty) := by
  induction fuel generalizing depth ty with
  | zero =>
    have htop : m.parent? ty = none := hcount.resolve_left (Nat.lt_irrefl 0)
    exact ⟨1, by omega, .now (by simp [depthRound, htop, depthFrom])⟩
  | succ fuel ih =>
    cases hparent : m.parent? ty with
    | none => exact ⟨1, by omega, .now (by simp [depthRound, depthFrom, hparent])⟩
    | some parent =>
      have hdepth : m.depthFrom (fuel + 1) ty = m.depthFrom fuel parent + 1 := by
        rw [depthFrom, hparent]
      by_cases hlast : fuel = 0
      · -- the count has come to the number of types, and the loop breaks off
        subst hlast
        refine ⟨1, by omega, .now ?_⟩
        rw [hdepth, depthRound, if_pos (by omega)]
        rfl
      · obtain ⟨n, hn, hlater⟩ := ih (depth + 1) parent (by omega) (.inl (by omega))
        rw [Nat.add_right_comm, Nat.add_assoc, ← hdepth] at hlater
        refine ⟨n + 1, by omega, .later ?_ hlater⟩
        rw [depthRound, if_neg (by omega)]

theorem depthFrom_le (m : Module) (fuel : Nat) (ty : TypeDef) : m.depthFrom fuel ty ≤ fuel := by
  induction fuel generalizing ty with
  | zero => exact Nat.le_refl 0
  | succ fuel ih =>
    unfold depthFrom
    cases m.parent? ty with
    | none => exact Nat.zero_le _
    | some parent => exact Nat.succ_le_succ (ih parent)

/-! ## The way down -/

/-- The state is the tokens listed so far, with the position of the one that is visited next. -/
def nestedRound (types : List TypeDef) :
    Nat × List Token → LoopRound (Nat × List Token) (List Token)
  | (i, found) =>
    match found[i]? with
    | none => .leave found
    | some parent => .next (i + 1, addNested types parent found)

/-- One round for each token of the result, and one to see that there are no more. -/
theorem Worklist.leaves {types : List TypeDef} {t : Token} {i : Nat} {found : List Token}
    (h : Worklist types t fuel i found) (hi : i ≤ found.length) :
    ∃ n, n + i = (closeNested types fuel i found).length + 1 ∧
      Leaves (nestedRound types) n (i, found) (closeNested types fuel i found) := by
  induction fuel generalizing i found with
  | zero =>
    -- as many tokens were visited as can be listed at all
    have hlen := h.length_le
    have hfuel := h.fuel
    refine ⟨1, by rw [closeNested]; omega, .now ?_⟩
    simp [nestedRound, closeNested, List.getElem?_eq_none (show found.length ≤ i by omega)]
  | succ fuel ih =>
    unfold closeNested
    cases hparent : found[i]? with
    | none =>
      have hend : found.length ≤ i := List.getElem?_eq_none_iff.1 hparent
      exact ⟨1, by simp only; omega, .now (by simp [nestedRound, hparent])⟩
    | some parent =>
      have hlt : i < found.length := (List.getElem?_eq_some_iff.1 hparent).1
      have hgrown := (prefix_addNested types parent found).length_le
      obtain ⟨n, hn, hlater⟩ := ih (h.step hparent) (by omega)
      exact ⟨n + 1, by simp only; omega, .later (by simp [nestedRound, hparent]) hlater⟩

theorem Worklist.length_closeNested_le {types : List TypeDef} {t : Token} {i : Nat}
    {found : List Token} (h : Worklist types t fuel i found) :
    (closeNested types fuel i found).length ≤ types.length + 1 := by
  induction fuel generalizing i found with
  | zero => exact h.length_le
  | succ fuel ih =>
    unfold closeNested
    cases hparent : found[i]? with
    | none => exact h.length_le
    | some parent => exact ih (h.step hparent)

/-! ## All modules -/

/-- On every module the loops leave with what the walks return, in no more rounds than it has types
and two. The chain of a name has each token once; the depth is no more than the number of types; the
tokens collected downwards are distinct, and at most one more than there are types. -/
theorem nesting_loops_leave (m : Module) :
    (∀ ty, Leaves m.nameRound (m.enclosingChain ty).length ⟨[ty], [ty.token], ty⟩
        (m.enclosingChain ty) ∧
      ((m.enclosingChain ty).map TypeDef.token).Nodup ∧
      (m.enclosingChain ty).length ≤ m.types.length + 1) ∧
    (∀ ty, (∃ n ≤ m.nestingDepth ty + 1,
        Leaves m.depthRound n (0, m.parent? ty) (m.nestingDepth ty)) ∧
      m.nestingDepth ty ≤ m.types.length) ∧
    ∀ t, Leaves (nestedRound m.types) ((m.typeAndNested t).length + 1) (0, [t])
        (m.typeAndNested t) ∧
      (m.typeAndNested t).Nodup ∧ (m.typeAndNested t).length ≤ m.types.length + 1 := by
  refine ⟨fun ty => ⟨?_, m.enclosingChain_nodup ty, m.length_chainFrom_le _ _ ty⟩,
    fun ty => ⟨?_, m.depthFrom_le _ ty⟩, fun t => ⟨?_, m.typeAndNested_nodup t, ?_⟩⟩
  · exact leaves_nameRound (List.length_filter_le _ _) []
  · have hcount : 0 < m.types.length ∨ m.parent? ty = none := by
      cases hparent : m.parent? ty with
      | none => exact .inr rfl
      | some parent => exact .inl (List.length_pos_of_mem (parent?_mem hparent))
    have hleaves := leaves_depthRound 0 ty (Nat.zero_add _) hcount
    rwa [Nat.zero_add] at hleaves
  · obtain ⟨n, hn, hleaves⟩ := (worklist_start m.types t).leaves (Nat.zero_le _)
    exact hn ▸ hleaves
  · exact (worklist_start m.types t).length_closeNested_le

/-- A type in itself, two in each other, one in a circle it is no part of, a dangling end and a
repeated token. -/
example :
    let ty (token enclosing : UInt32) : TypeDef :=
      { token := ⟨token⟩, name := "T", enclosing := some ⟨enclosing⟩ }
    let m : Module := { types := [ty 1 1, ty 2 3, ty 3 2, ty 4 3, ty 5 9, ty 2 4] }
    m.enclosingChain (ty 1 1) = [ty 1 1] ∧ m.enclosingChain (ty 4 3) = [ty 4 3, ty 3 2, ty 2 3] ∧
      m.types.map m.nestingDepth = [6, 6, 6, 6, 0, 6] ∧
      m.typeAndNested ⟨4⟩ = [⟨4⟩, ⟨2⟩, ⟨3⟩] ∧ m.typeAndNested ⟨9⟩ = [⟨9⟩, ⟨5⟩] := by
  decide

end Module

end Unmask
