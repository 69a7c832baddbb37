import Unmask.Text.Printable

/-!
# Text for display

Numbers in base 16 and base 10 are filled with zeros on the left up to a fixed width. A quoted text
stands between double quotes; characters in it that would end it, start an escape, break the line or
not be seen are written as escapes, and an apostrophe is not.
-/

namespace Unmask.Text

/-- Fills `s` with zeros on the left up to `width` characters. -/
def padZero (width : Nat) (s : String) : String :=
  String.ofList (List.replicate (width - s.length) '0') ++ s

def hexLower (width n : Nat) : String :=
  padZero width (String.ofList (Nat.toDigits 16 n))

def hexUpper (width n : Nat) : String :=
  padZero width (String.ofList ((Nat.toDigits 16 n).map Char.toUpper))

def escapeChar (c : Char) : String :=
  if c = '\x00' then "\\0"
  else if c = '\t' then "\\t"
  else if c = '\r' then "\\r"
  else if c = '\n' then "\\n"
  else if c = '\\' then "\\\\"
  else if c = '"' then "\\\""
  else if !isPrintable c then
    "\\u\x7b" ++ hexLower 1 c.toNat ++ "\x7d"
  else String.singleton c

def quote (cs : List Char) : String :=
  "\"" ++ String.join (cs.map escapeChar) ++ "\""

end Unmask.Text
