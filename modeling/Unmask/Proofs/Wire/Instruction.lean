import Unmask.Proofs.Text.Utf16
import Unmask.Wire.Instruction

/-!
# Instructions and values survive the wire

What a writer writes its reader reads back: first the plain types, lists and missing values, then
whatever is built of them, up to instructions and runtime values.
-/

namespace Unmask

namespace Json

/-! ## Plain types -/

theorem toNat?_nat {n hi : Nat} (h : n < hi) : (Json.nat n).toNat? hi = some n := by
  have hrange : (0 : Int) ≤ n ∧ (n : Int) < hi := by omega
  rw [nat, toNat?, toInt?, if_pos hrange, Option.map_some, Int.toNat_natCast]

@[simp] theorem toUInt16?_nat (v : UInt16) : (Json.nat v.toNat).toUInt16? = some v := by
  rw [toUInt16?, toNat?_nat v.toNat_lt_size, Option.map_some, UInt16.ofNat_toNat]

@[simp] theorem toUInt32?_nat (v : UInt32) : (Json.nat v.toNat).toUInt32? = some v := by
  rw [toUInt32?, toNat?_nat v.toNat_lt_size, Option.map_some, UInt32.ofNat_toNat]

@[simp] theorem toUInt64?_nat (v : UInt64) : (Json.nat v.toNat).toUInt64? = some v := by
  rw [toUInt64?, toNat?_nat v.toNat_lt_size, Option.map_some, UInt64.ofNat_toNat]

@[simp] theorem toInt32?_int (v : Int32) : (Json.int v.toInt).toInt32? = some v := by
  have hlow := v.le_toInt
  have hhigh := v.toInt_lt
  have hrange : -0x80000000 ≤ v.toInt ∧ v.toInt < 0x80000000 := by omega
  rw [toInt32?, toInt?, if_pos hrange, Option.map_some, Int32.ofInt_toInt]

@[simp] theorem toInt64?_int (v : Int64) : (Json.int v.toInt).toInt64? = some v := by
  have hlow := v.le_toInt
  have hhigh := v.toInt_lt
  have hrange : -0x8000000000000000 ≤ v.toInt ∧ v.toInt < 0x8000000000000000 := by omega
  rw [toInt64?, toInt?, if_pos hrange, Option.map_some, Int64.ofInt_toInt]

@[simp] theorem toStr?_str (s : String) : (Json.str s).toStr? = some s := rfl

@[simp] theorem toBool?_bool (b : Bool) : (Json.bool b).toBool? = some b := rfl

/-! ## Lists and missing values -/

section Combinators

variable {α : Type} {write : α → Json} {read : Json → Option α}

theorem toList?_map (h : ∀ a, read (write a) = some a) (l : List α) :
    toList? read (.arr (l.map write)) = some l := by
  have hread : (l.map write).mapM read = some l := by
    induction l with
    | nil => rfl
    | cons a rest ih => simp [h, ih]
  simpa [toList?, toItems?] using hread

/-- A value that is never written as `null` may be missing. -/
theorem toOption?_opt (h : ∀ a, read (write a) = some a) (hnull : ∀ a, write a ≠ .null)
    (o : Option α) : toOption? read (Json.opt write o) = some o := by
  cases o with
  | none => rfl
  | some a =>
    have hsome : toOption? read (write a) = (read (write a)).map some := by
      cases hw : write a <;> first | rfl | exact absurd hw (hnull a)
    rw [Json.opt, hsome, h, Option.map_some]

end Combinators

-- No `rfl` here: it would let `simp` hand the kernel whole readers to evaluate, bounds included.
@[simp] theorem required_some {α : Type} (f : Json → Option α) (j : Json) :
    required f (some j) = f j := by
  rw [required]

@[simp] theorem orDefault_some {α : Type} (f : Json → Option α) (a : α) (j : Json) :
    orDefault f a (some j) = f j := by
  rw [orDefault]

/-- A tagged value is read as its tag and its content. -/
theorem tagged?_tag {tag content : String} (hne : content ≠ tag) (name : String) (j : Json) :
    (Json.tag tag name content j).tagged? tag content = some (name, some j) := by
  simp [Json.tag, tagged?, name?, List.lookup_cons, beq_eq_false_iff_ne.2 hne]

end Json

/-! ## Tokens, strings and immediates -/

@[simp] theorem Token.ofJson?_toJson (t : Token) : Token.ofJson? t.toJson = some t := by
  simp [Token.ofJson?, Token.toJson]

@[simp] theorem OpCode.ofJson?_toJson (op : OpCode) : OpCode.ofJson? op.toJson = some op := by
  simp [OpCode.ofJson?, OpCode.toJson]

/-- Text goes as text, units that are no text go as units. -/
@[simp] theorem UserString.ofJson?_toJson (s : UserString) :
    UserString.ofJson? s.toJson = some s := by
  unfold UserString.toJson
  split
  · rename_i text htext
    exact congrArg some (ofString_of_toString? htext)
  · have hunits : (Json.arr (s.units.map fun u => .nat u.toNat)).toList? Json.toUInt16? =
        some s.units := Json.toList?_map Json.toUInt16?_nat s.units
    simp [UserString.ofJson?, hunits]

@[simp] theorem Immediate.ofJson?_toJson (v : Immediate) :
    Immediate.ofJson? v.toJson = some v := by
  have hne : "value" ≠ "type" := by decide
  cases v <;> simp [Immediate.ofJson?, Immediate.toJson, Json.tagged?_tag hne]

/-! ## Operands, instructions and values -/

@[simp] theorem Operand.ofJson?_toJson (o : Operand) : Operand.ofJson? o.toJson = some o := by
  have hne : "value" ≠ "kind" := by decide
  cases o with
  | none =>
    simp [Operand.ofJson?, Operand.toJson, Json.tagged?, Json.name?, List.lookup_cons, Json.isUnit]
  | switch slots =>
    have hslots : (Json.arr (slots.map fun s => .nat s.toNat)).toList? Json.toUInt32? =
        some slots := Json.toList?_map Json.toUInt32?_nat slots
    simp [Operand.ofJson?, Operand.toJson, Json.tagged?_tag hne, hslots]
  | immediate | string | method | token | target | «local» | argument =>
    simp [Operand.ofJson?, Operand.toJson, Json.tagged?_tag hne]

@[simp] theorem Instruction.ofJson?_toJson (i : Instruction) :
    Instruction.ofJson? i.toJson = some i := by
  have hfields : i.toJson.record? ["opcode", "operand"] =
      some [some i.opcode.toJson, some i.operand.toJson] := by
    simp [Instruction.toJson, Json.record?, List.lookup_cons]
  simp [Instruction.ofJson?, hfields]

theorem Value.ofJson?_toJson (v : Value) : Value.ofJson? v.toJson = some v := by
  have hne : "value" ≠ "type" := by decide
  cases v with
  | null =>
    simp [Value.ofJson?, Value.toJson, Json.tagged?, Json.name?, List.lookup_cons, Json.isUnit]
  | int32 | int64 | float32 | float64 | string =>
    simp [Value.ofJson?, Value.toJson, Json.tagged?_tag hne]

end Unmask
