import Unmask.Json.Basic

/-!
# Reading values out of JSON

Readers for the plain types, and `record?` for structures: a structure is an object with its fields
by name, unknown ones ignored, or the array of its fields in order, where fields at the end may be
missing.
-/

namespace Unmask.Json

def toBool? : Json → Option Bool
  | .bool b => some b
  | _ => none

def toStr? : Json → Option String
  | .str s => some s
  | _ => none

/-- An integer from `lo` up to but not including `hi`. -/
def toInt? (lo hi : Int) : Json → Option Int
  | .int n => if lo ≤ n ∧ n < hi then some n else none
  | _ => none

def toNat? (hi : Nat) (j : Json) : Option Nat := (j.toInt? 0 hi).map Int.toNat

def toUInt8? (j : Json) : Option UInt8 := (j.toNat? UInt8.size).map UInt8.ofNat

def toUInt16? (j : Json) : Option UInt16 := (j.toNat? UInt16.size).map UInt16.ofNat

def toUInt32? (j : Json) : Option UInt32 := (j.toNat? UInt32.size).map UInt32.ofNat

def toUInt64? (j : Json) : Option UInt64 := (j.toNat? UInt64.size).map UInt64.ofNat

def toInt32? (j : Json) : Option Int32 := (j.toInt? (-0x80000000) 0x80000000).map Int32.ofInt

def toInt64? (j : Json) : Option Int64 :=
  (j.toInt? (-0x8000000000000000) 0x8000000000000000).map Int64.ofInt

def toItems? : Json → Option (List Json)
  | .arr items => some items
  | _ => none

def toList? {α : Type} (f : Json → Option α) (j : Json) : Option (List α) := do
  (← j.toItems?).mapM f

/-- `null` is a missing value. -/
def toOption? {α : Type} (f : Json → Option α) : Json → Option (Option α)
  | .null => some none
  | j => (f j).map some

/-- The fields of a structure in declaration order, `none` for each missing one. -/
def record? (names : List String) : Json → Option (List (Option Json))
  | .obj fields => some (names.map fun name => fields.lookup name)
  | .arr items =>
    if items.length ≤ names.length then
      some (items.map some ++ List.replicate (names.length - items.length) none)
    else none
  | _ => none

/-- A field that may be missing. -/
def orDefault {α : Type} (f : Json → Option α) (a : α) : Option Json → Option α
  | none => some a
  | some j => f j

/-- A field that must be there. -/
def required {α : Type} (f : Json → Option α) : Option Json → Option α
  | none => none
  | some j => f j

end Unmask.Json
