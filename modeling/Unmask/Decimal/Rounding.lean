import Unmask.Text.Display

/-!
# Rounding

Exact division of natural numbers, rounded to the nearest whole with ties to the even neighbour,
and what is built from it: text with a fixed number of places, and the binary fraction with 53
significant bits next to a quotient. Both scale by powers of ten and two.
-/

namespace Unmask.Decimal

def pow2 (n : Nat) : Nat := Nat.pow 2 n

def pow10 (n : Nat) : Nat := Nat.pow 10 n

/-- `num / den` rounded to the nearest natural number, a half to the even neighbour. -/
def roundDiv (num den : Nat) : Nat :=
  let q := num / den
  let r := num % den
  if den < 2 * r then q + 1
  else if 2 * r < den then q
  else if q % 2 = 0 then q else q + 1

/-- `num / den` with exactly `places` digits after the point. -/
def fixed (places num den : Nat) : String :=
  let scaled := roundDiv (num * pow10 places) den
  let whole := toString (scaled / pow10 places)
  if places = 0 then whole
  else whole ++ "." ++ Text.padZero places (toString (scaled % pow10 places))

/-- A non-negative fraction of natural numbers. -/
structure Ratio where
  num : Nat
  den : Nat

/-- The binary fraction with 53 significant bits nearest to `num / den`, ties to even. Quotients
here are far from the ends of the exponent range, so no exponent is too large or too small. -/
def toBinary (r : Ratio) : Ratio :=
  if r.num = 0 ∨ r.den = 0 then ⟨0, 1⟩
  else
    -- scale so that the quotient has 53 or 54 bits before it is rounded to 53
    let up := 53 + Nat.log2 r.den - Nat.log2 r.num
    let down := Nat.log2 r.num - (53 + Nat.log2 r.den)
    let num := r.num * pow2 up
    let den := r.den * pow2 down
    let extra := if pow2 53 ≤ num / den then 1 else 0
    let m := roundDiv num (den * pow2 extra)
    ⟨m * pow2 (down + extra), pow2 up⟩

end Unmask.Decimal
