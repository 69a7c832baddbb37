import Mathlib.Logic.Relation
import Unmask.Module.Basic
import Unmask.Value

/-!
# Executions of a body

Control goes from a slot to the next one or to a slot that the instruction names as a target. A
constant load leaves its constant on the stack; what other instructions do to the stack is left
open. So what holds of every execution here holds whatever the other instructions mean.
-/

namespace Unmask

/-- The slots that an instruction names as targets. -/
def Instruction.targets (i : Instruction) : List Nat :=
  match i.operand with
  | .target slot => [slot.toNat]
  | .switch slots => slots.map UInt32.toNat
  | _ => []

/-- Some instruction of the body names the slot as a target. -/
def Targeted (body : Array Instruction) (n : Nat) : Prop := ∃ i ∈ body, n ∈ i.targets

instance (body : Array Instruction) (n : Nat) : Decidable (Targeted body n) :=
  inferInstanceAs (Decidable (∃ i ∈ body, n ∈ i.targets))

/-- Control has come to a slot, with these values on the stack, the top one first. -/
structure Point where
  slot : Nat
  stack : List Value
  deriving DecidableEq, Repr

/-- What the instructions that load no constant may do to the stack. -/
abbrev StackAction := Instruction → List Value → List Value → Prop

/-- One instruction is executed. -/
inductive BodyStep (acts : StackAction) (body : Array Instruction) : Point → Point → Prop
  | constant {k : Nat} {stack : List Value} {i : Instruction} {v : Int32}
      (hslot : body[k]? = some i) (hconst : i.constant? = some v) :
      BodyStep acts body ⟨k, stack⟩ ⟨k + 1, .int32 v :: stack⟩
  | other {k j : Nat} {stack stack' : List Value} {i : Instruction} (hslot : body[k]? = some i)
      (hconst : i.constant? = none) (hacts : acts i stack stack')
      (hgoes : j = k + 1 ∨ j ∈ i.targets) : BodyStep acts body ⟨k, stack⟩ ⟨j, stack'⟩

/-- Some execution of the body, from its first slot and with nothing on the stack, comes to the
point. -/
def Reached (acts : StackAction) (body : Array Instruction) (p : Point) : Prop :=
  Relation.ReflTransGen (BodyStep acts body) ⟨0, []⟩ p

variable {acts : StackAction} {body : Array Instruction} {p q : Point} {n : Nat} {v : Int32}

/-- A constant load falls through to the next slot with its constant on top. -/
theorem BodyStep.of_constant (h : BodyStep acts body p q)
    (hconst : body[p.slot]?.bind Instruction.constant? = some v) :
    q = ⟨p.slot + 1, .int32 v :: p.stack⟩ := by
  cases h with
  | constant hslot hv =>
    rw [hslot, Option.bind_some, hv] at hconst
    rw [Option.some.inj hconst]
  | other hslot hnone =>
    rw [hslot, Option.bind_some, hnone] at hconst
    cases hconst

/-- Control comes to a slot that is no target from the slot before it. -/
theorem BodyStep.from_previous (h : BodyStep acts body p q) (hq : q.slot = n + 1)
    (hfree : ¬ Targeted body (n + 1)) : p.slot = n := by
  cases h with
  | constant => exact Nat.succ.inj hq
  | @other k j _ _ i hslot _ _ hgoes =>
    obtain rfl : j = n + 1 := hq
    rcases hgoes with hnext | htarget
    · exact Nat.succ.inj hnext.symm
    · exact absurd ⟨i, Array.mem_of_getElem? hslot, htarget⟩ hfree

/-- To a slot after the first an execution comes by a step. -/
theorem Reached.exists_step (h : Reached acts body q) (hq : q.slot = n + 1) :
    ∃ p, Reached acts body p ∧ BodyStep acts body p q := by
  rcases Relation.ReflTransGen.cases_tail h with hstart | hstep
  · rw [hstart] at hq
    cases hq
  · exact hstep

/-- The slot `n` leaves `v` on top of the stack for the slot after it: whenever control goes on from
there, and if the slot after it is no target, whenever control comes to that. -/
structure Delivers (body : Array Instruction) (n : Nat) (v : Int32) : Prop where
  goesOn {acts : StackAction} {p q : Point} (hstep : BodyStep acts body p q) (hp : p.slot = n) :
    q = ⟨n + 1, .int32 v :: p.stack⟩
  arrives (hfree : ¬ Targeted body (n + 1)) {acts : StackAction} {q : Point}
    (hq : Reached acts body q) (hslot : q.slot = n + 1) :
    ∃ p, Reached acts body p ∧ BodyStep acts body p q ∧ p.slot = n ∧ q.stack = .int32 v :: p.stack

theorem Delivers.of_constant (hconst : body[n]?.bind Instruction.constant? = some v) :
    Delivers body n v where
  goesOn hstep hp := by
    rw [← hp] at hconst ⊢
    exact hstep.of_constant hconst
  arrives hfree _ q hq hslot := by
    obtain ⟨p, hp, hstep⟩ := hq.exists_step hslot
    have hprevious := hstep.from_previous hslot hfree
    rw [← hprevious] at hconst
    exact ⟨p, hp, hstep, hprevious, congrArg Point.stack (hstep.of_constant hconst)⟩

end Unmask
