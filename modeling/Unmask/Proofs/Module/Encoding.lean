import Unmask.Proofs.Decrypt.Literal
import Unmask.Proofs.Module.Recode

/-!
# Encodings of constants

An instruction that loads a constant may do so in a short form, with the constant in the opcode, or
in the long form. `Instruction.Recoded` relates the encodings of one constant, and `longForm` picks
one of them: modules that differ in encodings only are those of which it makes the same.
-/

namespace Unmask

namespace Instruction

/-- The same instruction, or loads of the same constant that name no token. -/
def Recoded (i j : Instruction) : Prop :=
  i = j ∨ ∃ v, i.constant? = some v ∧ j.constant? = some v ∧ i.token? = none ∧ j.token? = none

/-- The instruction, or the long form of the constant it loads. An opcode of a short form with a
token for an operand stays. -/
def longForm (i : Instruction) : Instruction :=
  if i.token?.isSome then i
  else
    match i.constant? with
    | some v => ⟨.ldcI4, .immediate (.int32 v)⟩
    | none => i

theorem longForm_of_token {i : Instruction} (h : i.token?.isSome) : i.longForm = i := if_pos h

theorem longForm_of_constant {i : Instruction} {v : Int32} (hv : i.constant? = some v)
    (htoken : i.token? = none) : i.longForm = ⟨.ldcI4, .immediate (.int32 v)⟩ := by
  simp [longForm, htoken, hv]

theorem longForm_of_not_constant {i : Instruction} (h : i.constant? = none) : i.longForm = i := by
  simp [longForm, h]

/-- What an instruction is like for who asks for its long form. -/
theorem longForm_cases (i : Instruction) : i.longForm = i ∨
    ∃ v, i.constant? = some v ∧ i.token? = none ∧
      i.longForm = ⟨.ldcI4, .immediate (.int32 v)⟩ := by
  cases hv : i.constant? with
  | none => exact .inl (longForm_of_not_constant hv)
  | some v =>
    cases htoken : i.token? with
    | some t => exact .inl (longForm_of_token (by simp [htoken]))
    | none => exact .inr ⟨v, rfl, rfl, longForm_of_constant hv htoken⟩

@[simp] theorem constant?_longForm (i : Instruction) : i.longForm.constant? = i.constant? := by
  rcases i.longForm_cases with h | ⟨v, hv, -, h⟩
  · rw [h]
  · rw [h, hv]
    rfl

@[simp] theorem token?_longForm (i : Instruction) : i.longForm.token? = i.token? := by
  rcases i.longForm_cases with h | ⟨v, -, htoken, h⟩
  · rw [h]
  · rw [h, htoken]
    rfl

@[simp] theorem longForm_longForm (i : Instruction) : i.longForm.longForm = i.longForm := by
  rcases i.longForm_cases with h | ⟨v, -, -, h⟩
  · rw [h, h]
  · rw [h]
    rfl

/-- Two instructions encode the same exactly if they have the same long form. -/
theorem recoded_iff (i j : Instruction) : Recoded i j ↔ i.longForm = j.longForm := by
  constructor
  · rintro (rfl | ⟨v, hi, hj, hti, htj⟩)
    · rfl
    · rw [longForm_of_constant hi hti, longForm_of_constant hj htj]
  · intro h
    have hconstant : i.constant? = j.constant? := by
      rw [← constant?_longForm i, h, constant?_longForm]
    have htoken : i.token? = j.token? := by rw [← token?_longForm i, h, token?_longForm]
    rcases i.longForm_cases with hi | ⟨v, hv, hnone, -⟩
    · rcases j.longForm_cases with hj | ⟨v, hv, hnone, -⟩
      · exact .inl (by rw [← hi, h, hj])
      · exact .inr ⟨v, hconstant.trans hv, hv, htoken.trans hnone, hnone⟩
    · exact .inr ⟨v, hv, hconstant ▸ hv, hnone, htoken ▸ hnone⟩

@[simp] theorem method?_longForm (i : Instruction) : i.longForm.method? = i.method? := by
  rcases i.longForm_cases with h | ⟨v, -, htoken, h⟩
  · rw [h]
  · have hmethod : i.method? = none := by
      unfold token? at htoken
      unfold method?
      split at htoken <;> simp_all
    rw [h, hmethod]
    rfl

@[simp] theorem isCall_longForm (i : Instruction) : i.longForm.isCall = i.isCall := by
  rcases i.longForm_cases with h | ⟨v, hv, -, h⟩
  · rw [h]
  · have hcall : i.isCall = false := not_isCall_of_constant (Option.isSome_of_mem hv)
    rw [h, hcall]
    rfl

@[simp] theorem calls_longForm (i : Instruction) (t : Token) : i.longForm.calls t = i.calls t := by
  simp [calls]

@[simp] theorem isDirectCall_longForm (i : Instruction) :
    decide (i.longForm.opcode = .call) = decide (i.opcode = .call) := by
  rcases i.longForm_cases with h | ⟨v, hv, -, h⟩
  · rw [h]
  · have hcall : i.isCall = false := not_isCall_of_constant (Option.isSome_of_mem hv)
    have hop : i.opcode ≠ .call := fun hop => by simp [isCall, OpCode.isCall, hop] at hcall
    rw [h, decide_eq_false hop]
    rfl

end Instruction

/-! ## Modules -/

section Same

variable {R : Array Instruction → Array Instruction → Prop}
  {f : Array Instruction → Array Instruction}

theorem forall₂_iff_map_eq {α β : Type} {P : α → α → Prop} {g : α → β}
    (h : ∀ a b, P a b ↔ g a = g b) (l l' : List α) :
    List.Forall₂ P l l' ↔ l.map g = l'.map g := by
  have hP : P = fun a b => g a = g b := funext fun a => funext fun b => propext (h a b)
  rw [hP, ← List.forall₂_eq_eq_eq, List.forall₂_map_left_iff, List.forall₂_map_right_iff]

theorem optionRel_iff_map_eq {α β : Type} {P : α → α → Prop} {g : α → β}
    (h : ∀ a b, P a b ↔ g a = g b) {a b : Option α} :
    Option.Rel P a b ↔ a.map g = b.map g := by
  cases a <;> cases b <;> simp [h]

/-- If related bodies are those with the same image, related methods are those with the same. -/
theorem MethodDef.framed_iff (h : ∀ a b, R a b ↔ f a = f b) (d d' : MethodDef) :
    MethodDef.Framed R d d' ↔ d.mapBody f = d'.mapBody f := by
  constructor
  · intro hd
    have hbody := (optionRel_iff_map_eq h).1 hd.body
    simp only [mapBody, hbody, hd.token, hd.name, hd.flags, hd.signature]
  · intro hd
    simp only [mapBody, MethodDef.mk.injEq] at hd
    obtain ⟨htoken, hname, hflags, hsignature, hbody⟩ := hd
    exact ⟨htoken.symm, hname.symm, hflags.symm, hsignature.symm, (optionRel_iff_map_eq h).2 hbody⟩

theorem TypeDef.framed_iff (h : ∀ a b, R a b ↔ f a = f b) (ty ty' : TypeDef) :
    TypeDef.Framed R ty ty' ↔ ty.mapBodies f = ty'.mapBodies f := by
  have hmethods := forall₂_iff_map_eq (MethodDef.framed_iff h) ty.methods ty'.methods
  constructor
  · intro hty
    simp only [mapBodies, hmethods.1 hty.methods, hty.token, hty.namespaceName, hty.name,
      hty.enclosing, hty.flags, hty.isDelegate]
  · intro hty
    simp only [mapBodies, TypeDef.mk.injEq] at hty
    obtain ⟨htoken, hspace, hname, henclosing, hflags, hdelegate, hsame⟩ := hty
    exact ⟨htoken.symm, hspace.symm, hname.symm, henclosing.symm, hflags.symm, hdelegate.symm,
      hmethods.2 hsame⟩

end Same

/-- The bodies have as many slots, each with related instructions. -/
def RecodedBodies (a b : Array Instruction) : Prop :=
  List.Forall₂ Instruction.Recoded a.toList b.toList

theorem recodedBodies_iff (a b : Array Instruction) :
    RecodedBodies a b ↔ a.map Instruction.longForm = b.map Instruction.longForm := by
  rw [← Array.toList_inj, Array.toList_map, Array.toList_map]
  exact forall₂_iff_map_eq Instruction.recoded_iff a.toList b.toList

namespace Module

/-- The modules differ in the encodings of constants only. -/
structure Recoded (m m' : Module) : Prop where
  name : m'.name = m.name
  memberRefs : m'.memberRefs = m.memberRefs
  types : List.Forall₂ (TypeDef.Framed RecodedBodies) m.types m'.types

/-- The module with all constants in the long form. -/
def longForm (m : Module) : Module := m.mapCode Instruction.longForm

theorem recoded_iff {m m' : Module} : m.Recoded m' ↔ m.longForm = m'.longForm := by
  have htypes := forall₂_iff_map_eq (TypeDef.framed_iff recodedBodies_iff) m.types m'.types
  constructor
  · intro h
    have hsame := htypes.1 h.types
    show ({ m with types := _ } : Module) = { m' with types := _ }
    rw [← h.name, ← h.memberRefs]
    exact congrArg (Module.mk m'.name · m'.memberRefs) hsame
  · intro h
    obtain ⟨hname, hsame, hrefs⟩ := Module.mk.inj h
    exact ⟨hname.symm, hrefs.symm, htypes.2 hsame⟩

theorem recoded_longForm (m : Module) : m.Recoded m.longForm := by
  rw [recoded_iff, longForm, longForm, mapCode_eq_mapBodies, mapCode_eq_mapBodies,
    mapBodies_mapBodies]
  congr 1
  funext body
  simp

end Module

end Unmask
