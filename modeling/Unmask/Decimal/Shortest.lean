import Unmask.Decimal.Rounding

/-!
# Shortest decimal text of binary floating point numbers

A number is given by its bit pattern. The digits written are the fewest that read back as the same
number, and of those the nearest to it, of two that are equally near the larger in size; no
exponent is written.
-/

namespace Unmask.Decimal

/-- Widths of the fields of a binary interchange format. -/
structure Format where
  fractionBits : Nat
  exponentBits : Nat

def binary32 : Format := ⟨23, 8⟩

def binary64 : Format := ⟨52, 11⟩

/-- A positive real with an interval around it, all three in units of a common `1 / den`. The ends
belong to the interval iff `closed`. -/
structure Interval where
  low : Nat
  value : Nat
  high : Nat
  den : Nat
  closed : Bool

def Interval.contains (i : Interval) (num den : Nat) : Bool :=
  if i.closed then i.low * den ≤ num * i.den && num * i.den ≤ i.high * den
  else i.low * den < num * i.den && num * i.den < i.high * den

/-- The reals that round to `m * 2 ^ q`, where `m` is the least of its binade iff `least`. -/
def Interval.around (m : Nat) (q : Int) (least : Bool) : Interval :=
  let unit := pow2 (q - 2).toNat
  { low := (4 * m - if least then 1 else 2) * unit
    value := 4 * m * unit
    high := (4 * m + 2) * unit
    den := pow2 (2 - q).toNat
    closed := m % 2 = 0 }

/-- The number `digits * 10 ^ exponent`. -/
structure Scientific where
  digits : Nat
  exponent : Int

/-- `x` as a fraction of natural numbers. -/
def Scientific.num (x : Scientific) : Nat := x.digits * pow10 x.exponent.toNat

def Scientific.den (x : Scientific) : Nat := pow10 (-x.exponent).toNat

def decimalLength (n : Nat) : Nat := (Nat.toDigits 10 n).length

/-- The `k` with `10 ^ (k - 1) ≤ num / den < 10 ^ k`. -/
def magnitude (num den : Nat) : Int :=
  if den ≤ num then decimalLength (num / den)
  else
    let d := decimalLength (den / num)
    if den ≤ num * pow10 (d - 1) then 2 - (d : Int) else 1 - (d : Int)

/-- The multiple of `10 ^ e` that lies in the interval and is nearest to its value, if one of the
value's two neighbours on that grid lies in it. A tie goes to the larger. -/
def Interval.onGrid (i : Interval) (e : Int) : Option Scientific :=
  let num := i.value * pow10 (-e).toNat
  let den := i.den * pow10 e.toNat
  let below : Scientific := ⟨num / den, e⟩
  let above : Scientific := ⟨num / den + 1, e⟩
  let r := num % den
  match i.contains below.num below.den, i.contains above.num above.den with
  | true, true =>
    if 2 * r < den then some below else some above
  | true, false => some below
  | false, true => some above
  | false, false => none

/-- The decimal with the fewest digits in the interval. Seventeen digits always suffice. -/
def Interval.shortest (i : Interval) : Scientific :=
  let k := magnitude i.value i.den
  ((List.range 17).findSome? fun n : Nat => i.onGrid (k - (n + 1 : Nat))).getD ⟨0, 0⟩

/-- Positional text of a decimal, without a point when it is whole. -/
def Scientific.positional (x : Scientific) : String :=
  let ds := Nat.toDigits 10 x.digits
  let zeros := (ds.reverse.takeWhile (· = '0')).length
  let ds := ds.take (ds.length - zeros)
  let e := x.exponent + zeros
  let places := (-e).toNat
  String.ofList <|
    if 0 ≤ e then ds ++ List.replicate e.toNat '0'
    else if places < ds.length then
      ds.take (ds.length - places) ++ '.' :: ds.drop (ds.length - places)
    else '0' :: '.' :: (List.replicate (places - ds.length) '0' ++ ds)

/-- The text of the number with the given bit pattern. A NaN has neither sign nor payload. -/
def showBits (f : Format) (bits : Nat) : String :=
  let fraction := bits % pow2 f.fractionBits
  let biased := bits / pow2 f.fractionBits % pow2 f.exponentBits
  let sign := if bits / pow2 (f.fractionBits + f.exponentBits) % 2 = 1 then "-" else ""
  let bias : Int := (pow2 (f.exponentBits - 1) - 1 + f.fractionBits : Nat)
  if biased = pow2 f.exponentBits - 1 then
    if fraction = 0 then sign ++ "inf" else "NaN"
  else if biased = 0 then
    if fraction = 0 then sign ++ "0"
    else sign ++ (Interval.around fraction (1 - bias) false).shortest.positional
  else
    let m := pow2 f.fractionBits + fraction
    let least := fraction = 0 && 1 < biased
    sign ++ (Interval.around m (biased - bias) least).shortest.positional

end Unmask.Decimal
