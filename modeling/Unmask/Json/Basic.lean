/-!
# JSON values

Integers are exact over the range that fits 64 bits with or without sign; every other number is kept
apart as leading digits and a power of ten, because a reader of integers must refuse `1.0`. The
fields of an object are kept in order, each name once.
-/

namespace Unmask

inductive Json where
  | null
  | bool (b : Bool)
  | int (n : Int)
  | real (significand exponent : Int)
  | str (s : String)
  | arr (items : List Json)
  | obj (fields : List (String × Json))
  deriving Inhabited

namespace Json

def nat (n : Nat) : Json := .int n

def strs (l : List String) : Json := .arr (l.map .str)

/-- A missing value is written as `null`. -/
def opt {α : Type} (f : α → Json) : Option α → Json
  | none => .null
  | some a => f a

end Json

end Unmask
