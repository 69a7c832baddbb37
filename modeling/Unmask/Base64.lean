/-!
# Base64

The standard alphabet with canonical padding: groups of three bytes become four characters, a last
group of one or two bytes is filled with `=`, and the bits that a short group leaves over are zero.
Decoding accepts nothing else.
-/

namespace Unmask.Base64

/-- The character of a six-bit number. -/
def digit (n : Nat) : Char :=
  if n < 26 then Char.ofNat (65 + n)
  else if n < 52 then Char.ofNat (97 + (n - 26))
  else if n < 62 then Char.ofNat (48 + (n - 52))
  else if n = 62 then '+' else '/'

/-- The six-bit number of a character. -/
def digit? (c : Char) : Option Nat :=
  if 'A' ≤ c ∧ c ≤ 'Z' then some (c.toNat - 65)
  else if 'a' ≤ c ∧ c ≤ 'z' then some (c.toNat - 97 + 26)
  else if '0' ≤ c ∧ c ≤ '9' then some (c.toNat - 48 + 52)
  else if c = '+' then some 62
  else if c = '/' then some 63
  else none

def encode : List UInt8 → List Char
  | [] => []
  | [a] =>
    let n := a.toNat * 16
    [digit (n / 64), digit (n % 64), '=', '=']
  | [a, b] =>
    let n := (a.toNat * 256 + b.toNat) * 4
    [digit (n / 4096), digit (n / 64 % 64), digit (n % 64), '=']
  | a :: b :: c :: rest =>
    let n := (a.toNat * 256 + b.toNat) * 256 + c.toNat
    digit (n / 262144) :: digit (n / 4096 % 64) :: digit (n / 64 % 64) :: digit (n % 64) ::
      encode rest

def decode : List Char → Option (List UInt8)
  | [] => some []
  | [a, b, '=', '='] => do
    let x ← digit? a
    let y ← digit? b
    if y % 16 = 0 then some [UInt8.ofNat (x * 4 + y / 16)] else none
  | [a, b, c, '='] => do
    let x ← digit? a
    let y ← digit? b
    let z ← digit? c
    let n := x * 1024 + y * 16 + z / 4
    if z % 4 = 0 then some [UInt8.ofNat (n / 256), UInt8.ofNat n] else none
  | a :: b :: c :: d :: rest => do
    let x ← digit? a
    let y ← digit? b
    let z ← digit? c
    let w ← digit? d
    let n := ((x * 64 + y) * 64 + z) * 64 + w
    let tail ← decode rest
    some (UInt8.ofNat (n / 65536) :: UInt8.ofNat (n / 256) :: UInt8.ofNat n :: tail)
  | _ => none

def encodeBytes (data : ByteArray) : String := String.ofList (encode data.data.toList)

def decodeBytes? (s : String) : Option ByteArray :=
  (decode s.toList).map fun bytes => ⟨bytes.toArray⟩

end Unmask.Base64
