import Mathlib.Data.List.Nodup
import Unmask.Module.Nesting

/-!
# Laws of the nesting walks

The worklist behind `typeAndNested` never takes a token twice and takes tokens of types only, so
that its fuel lasts until every token of the list has been visited: the result is closed under
nesting. The upward walk never meets a token twice either, and more fuel than there are types left
to meet makes no difference to it.
-/

namespace Unmask.Module

/-- With a type, everything nested in it is in the list. -/
def NestingClosed (types : List TypeDef) (ts : List Token) : Prop :=
  ∀ ty ∈ types, ∀ parent ∈ ts, ty.enclosing = some parent → ty.token ∈ ts

/-! ## Downwards -/

theorem mem_addNested {types : List TypeDef} {parent t : Token} {found : List Token} :
    t ∈ addNested types parent found ↔
      t ∈ found ∨ ∃ ty ∈ types, ty.enclosing = some parent ∧ ty.token = t := by
  unfold addNested
  induction types generalizing found with
  | nil => simp
  | cons ty rest ih =>
    rw [List.foldl_cons, ih]
    split
    · rename_i h
      grind
    · rename_i h
      grind

theorem prefix_addNested (types : List TypeDef) (parent : Token) (found : List Token) :
    found <+: addNested types parent found := by
  unfold addNested
  induction types generalizing found with
  | nil => exact List.prefix_rfl
  | cons ty rest ih =>
    rw [List.foldl_cons]
    split
    · exact (List.prefix_append _ _).trans (ih _)
    · exact ih _

theorem nodup_addNested {types : List TypeDef} {parent : Token} {found : List Token}
    (h : found.Nodup) : (addNested types parent found).Nodup := by
  unfold addNested
  induction types generalizing found with
  | nil => exact h
  | cons ty rest ih =>
    rw [List.foldl_cons]
    split
    · rename_i hnew
      refine ih (List.nodup_append.2 ⟨h, List.nodup_singleton _, ?_⟩)
      rintro a ha b hb rfl
      exact hnew.2 (List.mem_singleton.1 hb ▸ ha)
    · exact ih h

/-- The worklist from position `i` on: everything before has been visited, and the fuel is enough
for all the tokens that can still turn up. -/
structure Worklist (types : List TypeDef) (t : Token) (fuel i : Nat) (found : List Token) :
    Prop where
  nodup : found.Nodup
  known : ∀ u ∈ found, u = t ∨ ∃ ty ∈ types, ty.token = u
  visited : ∀ j < i, ∀ parent, found[j]? = some parent → ∀ ty ∈ types,
    ty.enclosing = some parent → ty.token ∈ found
  fuel : types.length + 1 ≤ fuel + i

theorem Worklist.length_le {types : List TypeDef} {t : Token} {fuel i : Nat} {found : List Token}
    (h : Worklist types t fuel i found) : found.length ≤ types.length + 1 := by
  have hsub : found ⊆ t :: types.map TypeDef.token := by
    intro u hu
    rcases h.known u hu with rfl | ⟨ty, hty, rfl⟩
    · exact List.mem_cons_self
    · exact List.mem_cons_of_mem _ (List.mem_map_of_mem hty)
  simpa using List.Nodup.length_le_of_subset h.nodup hsub

theorem Worklist.step {types : List TypeDef} {t parent : Token} {fuel i : Nat}
    {found : List Token} (h : Worklist types t (fuel + 1) i found)
    (hparent : found[i]? = some parent) :
    Worklist types t fuel (i + 1) (addNested types parent found) where
  nodup := nodup_addNested h.nodup
  known u hu := by
    rcases mem_addNested.1 hu with hold | ⟨ty, hty, -, rfl⟩
    · exact h.known u hold
    · exact .inr ⟨ty, hty, rfl⟩
  visited j hj p hp ty hty henc := by
    have hi : i < found.length := (List.getElem?_eq_some_iff.1 hparent).1
    -- the new tokens stand behind the old ones, so position `j` still holds what it held
    have hsame : (addNested types parent found)[j]? = found[j]? := by
      obtain ⟨new, hnew⟩ := prefix_addNested types parent found
      rw [← hnew, List.getElem?_append_left (by omega)]
    rw [hsame] at hp
    rw [mem_addNested]
    by_cases hlast : j = i
    · subst hlast
      rw [hparent] at hp
      exact .inr ⟨ty, hty, henc.trans hp.symm, rfl⟩
    · exact .inl (h.visited j (by omega) p hp ty hty henc)
  fuel := by have := h.fuel; omega

theorem Worklist.closed {types : List TypeDef} {t : Token} {fuel i : Nat} {found : List Token}
    (h : Worklist types t fuel i found) :
    NestingClosed types (closeNested types fuel i found) := by
  induction fuel generalizing i found with
  | zero =>
    intro ty hty parent hparent henc
    obtain ⟨j, hj⟩ := List.getElem?_of_mem hparent
    have hlt : j < found.length := (List.getElem?_eq_some_iff.1 hj).1
    have hlen := h.length_le
    have hfuel := h.fuel
    exact h.visited j (by omega) parent hj ty hty henc
  | succ fuel ih =>
    unfold closeNested
    split
    · rename_i hend
      intro ty hty parent hparent henc
      obtain ⟨j, hj⟩ := List.getElem?_of_mem hparent
      have hlt : j < found.length := (List.getElem?_eq_some_iff.1 hj).1
      have hlen : found.length ≤ i := List.getElem?_eq_none_iff.1 hend
      exact h.visited j (by omega) parent hj ty hty henc
    · rename_i parent hparent
      exact ih (h.step hparent)

theorem worklist_start (types : List TypeDef) (t : Token) :
    Worklist types t (types.length + 1) 0 [t] where
  nodup := List.nodup_singleton t
  known u hu := .inl (List.mem_singleton.1 hu)
  visited j hj := by omega
  fuel := by omega

theorem typeAndNested_closed (m : Module) (t : Token) :
    NestingClosed m.types (m.typeAndNested t) :=
  (worklist_start m.types t).closed

theorem nodup_closeNested {types : List TypeDef} (fuel i : Nat) {found : List Token}
    (h : found.Nodup) : (closeNested types fuel i found).Nodup := by
  induction fuel generalizing i found with
  | zero => exact h
  | succ fuel ih =>
    unfold closeNested
    split
    · exact h
    · exact ih _ (nodup_addNested h)

/-- No token is listed twice. -/
theorem typeAndNested_nodup (m : Module) (t : Token) : (m.typeAndNested t).Nodup :=
  nodup_closeNested _ 0 (List.nodup_singleton t)

theorem prefix_closeNested (types : List TypeDef) (fuel i : Nat) (found : List Token) :
    found <+: closeNested types fuel i found := by
  induction fuel generalizing i found with
  | zero => exact List.prefix_rfl
  | succ fuel ih =>
    unfold closeNested
    split
    · exact List.prefix_rfl
    · exact (prefix_addNested types _ found).trans (ih _ _)

/-- The type itself comes first. -/
theorem typeAndNested_eq_cons (m : Module) (t : Token) :
    m.typeAndNested t = t :: (m.typeAndNested t).tail := by
  obtain ⟨nested, hnested⟩ := prefix_closeNested m.types (m.types.length + 1) 0 [t]
  unfold typeAndNested
  rw [← hnested]
  rfl

/-! ## Upwards -/

/-- The types whose tokens a walk has not met yet. -/
def unseen (m : Module) (seen : List Token) : Nat :=
  (m.types.filter fun ty => ty.token ∉ seen).length

theorem unseen_cons_lt {m : Module} {seen : List Token} {ty : TypeDef} (hty : ty ∈ m.types)
    (hnew : ty.token ∉ seen) : m.unseen (ty.token :: seen) < m.unseen seen := by
  have hsub : ((m.types.filter fun u => u.token ∉ seen).filter fun u => u.token ≠ ty.token).length <
      (m.types.filter fun u => u.token ∉ seen).length :=
    List.length_filter_lt_length_iff_exists.2
      ⟨ty, List.mem_filter.2 ⟨hty, by simpa using hnew⟩, by simp⟩
  rw [List.filter_filter] at hsub
  unfold unseen
  simpa [not_or] using hsub

theorem unseen_singleton_lt {m : Module} {ty : TypeDef} (hty : ty ∈ m.types) :
    m.unseen [ty.token] < m.types.length := by
  have hlt : m.unseen [ty.token] < m.unseen [] := unseen_cons_lt hty List.not_mem_nil
  simpa [unseen] using hlt

theorem parent?_mem {m : Module} {ty parent : TypeDef} (h : m.parent? ty = some parent) :
    parent ∈ m.types := by
  obtain ⟨t, -, ht⟩ := Option.bind_eq_some_iff.1 h
  exact List.mem_of_find?_eq_some ht

theorem chainFrom_succ {m : Module} {fuel : Nat} {seen : List Token} {ty : TypeDef}
    (h : m.unseen seen ≤ fuel) : m.chainFrom (fuel + 1) seen ty = m.chainFrom fuel seen ty := by
  induction fuel generalizing seen ty with
  | zero =>
    unfold chainFrom
    cases hparent : m.parent? ty with
    | none => rfl
    | some parent =>
      have hseen : parent.token ∈ seen := by
        by_contra hnew
        have := unseen_cons_lt (parent?_mem hparent) hnew
        omega
      simp [hseen]
  | succ fuel ih =>
    rw [chainFrom]
    conv_rhs => rw [chainFrom]
    cases hparent : m.parent? ty with
    | none => rfl
    | some parent =>
      by_cases hseen : parent.token ∈ seen
      · simp [hseen]
      · have := unseen_cons_lt (parent?_mem hparent) hseen
        simp only [hseen, if_false]
        rw [ih (by omega)]

/-- Fuel beyond the number of types left to meet does not matter. -/
theorem chainFrom_add {m : Module} {fuel : Nat} {seen : List Token} {ty : TypeDef}
    (h : m.unseen seen ≤ fuel) (n : Nat) :
    m.chainFrom (fuel + n) seen ty = m.chainFrom fuel seen ty := by
  induction n with
  | zero => rfl
  | succ n ih => rw [← Nat.add_assoc, chainFrom_succ (by omega), ih]

theorem enclosingChain_eq {m : Module} {fuel : Nat} (h : m.types.length ≤ fuel) (ty : TypeDef) :
    m.enclosingChain ty = m.chainFrom fuel [ty.token] ty := by
  obtain ⟨n, rfl⟩ := Nat.exists_eq_add_of_le h
  exact (chainFrom_add (List.length_filter_le _ _) n).symm

end Unmask.Module
