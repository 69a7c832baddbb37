import Unmask.Text.Display

/-!
# Metadata tokens

A token names one row of one metadata table: the table in its highest byte, the row in the three
others.
-/

namespace Unmask

structure Token where
  val : UInt32
  deriving DecidableEq, Repr, Inhabited

namespace Token

def ofParts (table : UInt8) (row : UInt32) : Token :=
  ⟨(table.toUInt32 <<< 24) ||| (row &&& 0xFFFFFF)⟩

def table (t : Token) : UInt8 := (t.val >>> 24).toUInt8

def row (t : Token) : UInt32 := t.val &&& 0xFFFFFF

def isNull (t : Token) : Bool := t.val = 0

/-- The table of method definitions. -/
def methodDefTable : UInt8 := 0x06

/-- The table of references to members of other types. -/
def memberRefTable : UInt8 := 0x0A

def isMethodDef (t : Token) : Bool := t.table = methodDefTable

def isMemberRef (t : Token) : Bool := t.table = memberRefTable

def display (t : Token) : String := "0x" ++ Text.hexLower 8 t.val.toNat

def describe (t : Token) : String :=
  "Token(" ++ t.display ++ ", table: 0x" ++ Text.hexLower 2 t.table.toNat ++
    ", row: " ++ toString t.row.toNat ++ ")"

end Token

end Unmask
