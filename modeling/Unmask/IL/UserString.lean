import Unmask.Text.Display
import Unmask.Text.Utf16

/-!
# User strings

String literals are sequences of UTF-16 code units. They need not be well-formed: an unpaired
surrogate is kept as it is.
-/

namespace Unmask

structure UserString where
  units : List UInt16
  deriving DecidableEq, Repr, Inhabited

namespace UserString

def ofString (s : String) : UserString := ⟨Text.Utf16.encode s.toList⟩

def length (s : UserString) : Nat := s.units.length

def isEmpty (s : UserString) : Bool := s.units.isEmpty

/-- The text of the string, if its units are well-formed. -/
def toString? (s : UserString) : Option String := (Text.Utf16.decode s.units).map String.ofList

/-- The text with U+FFFD in place of each unpaired surrogate. -/
def lossy (s : UserString) : String := String.ofList (Text.Utf16.decodeLossy s.units)

def eqString (s : UserString) (t : String) : Bool := s.units = Text.Utf16.encode t.toList

/-- The text in quotes, or the bare units where there is no text. -/
def describe (s : UserString) : String :=
  match s.toString? with
  | some t => Text.quote t.toList
  | none => "UserString([" ++ ", ".intercalate (s.units.map fun u => toString u.toNat) ++ "])"

end UserString

end Unmask
