import Unmask.Decrypt.Helper

/-!
# Literals

A value has a literal of a kind exactly if it is of that kind. The instruction that loads it is told
by its opcode, is never a call, and loads a constant only for the kind `int32`.
-/

namespace Unmask

/-- The kind of literal that a value is; a null reference is none. -/
def Value.kind? : Value → Option LiteralKind
  | .null => none
  | .int32 _ => some .int32
  | .int64 _ => some .int64
  | .float32 _ => some .float32
  | .float64 _ => some .float64
  | .string _ => some .string

/-- Whether an instruction loads a constant shows in its opcode. -/
theorem Instruction.loads_of_constant {i : Instruction} (h : i.constant?.isSome) :
    i.opcode.implicitI4?.isSome ∨ i.opcode.isLdcI4 := by
  unfold constant? at h
  grind

theorem Instruction.not_isCall_of_constant {i : Instruction} (h : i.constant?.isSome) :
    i.isCall = false := by
  have hload := loads_of_constant h
  refine Bool.eq_false_iff.2 fun hcall => ?_
  have hop : i.opcode = .call ∨ i.opcode = .callvirt := by
    simpa [isCall, OpCode.isCall] using hcall
  rcases hop with hop | hop <;> rw [hop] at hload <;> exact absurd hload (by decide)

namespace LiteralKind

/-- The opcode that loads a literal of this kind. -/
def opcode : LiteralKind → OpCode
  | .string => .ldstr
  | .int32 => .ldcI4
  | .int64 => .ldcI8
  | .float32 => .ldcR4
  | .float64 => .ldcR8

variable {kind : LiteralKind} {v : Value} {load : Instruction}

/-- A literal is loaded by the opcode of its kind, from a value of its kind. -/
theorem literal_eq_ok (h : kind.literal v = .ok load) :
    v.kind? = some kind ∧ load.opcode = kind.opcode := by
  cases kind <;> cases v <;> cases h <;> exact ⟨rfl, rfl⟩

theorem exists_literal_iff : (∃ load, kind.literal v = .ok load) ↔ v.kind? = some kind := by
  constructor
  · rintro ⟨load, h⟩
    exact (literal_eq_ok h).1
  · intro h
    cases v <;> cases h <;> exact ⟨_, rfl⟩

theorem literal_not_isCall (h : kind.literal v = .ok load) : ¬ load.isCall := by
  rw [Instruction.isCall, (literal_eq_ok h).2]
  cases kind <;> decide

/-- Only an `int32` literal is a constant that a decrypt call takes. -/
theorem kind_of_constant (h : kind.literal v = .ok load) (hconst : load.constant?.isSome) :
    kind = .int32 := by
  have hopcode := (literal_eq_ok h).2
  have hload := Instruction.loads_of_constant hconst
  rw [hopcode] at hload
  cases kind <;> first | rfl | exact absurd hload (by decide)

end LiteralKind

end Unmask
