/-!
# UTF-16 code units

Reading a sequence of code units splits it into characters and unpaired surrogates. Strict
decoding accepts the sequences without an unpaired surrogate, lossy decoding writes U+FFFD for
each of them.
-/

namespace Unmask.Text.Utf16

def isHigh (u : UInt16) : Bool := 0xD800 ≤ u && u ≤ 0xDBFF

def isLow (u : UInt16) : Bool := 0xDC00 ≤ u && u ≤ 0xDFFF

/-- The units of one character: two for a supplementary character, else one. -/
def encodeChar (c : Char) : List UInt16 :=
  if c.toNat < 0x10000 then
    [UInt16.ofNat c.toNat]
  else
    let v := c.toNat - 0x10000
    [UInt16.ofNat (0xD800 + v / 0x400), UInt16.ofNat (0xDC00 + v % 0x400)]

def encode (cs : List Char) : List UInt16 := cs.flatMap encodeChar

/-- The character of a high and a low surrogate. -/
def pair (hi lo : UInt16) : Char :=
  Char.ofNat (0x10000 + (hi.toNat - 0xD800) * 0x400 + (lo.toNat - 0xDC00))

/-- What stands at one place of a unit sequence. -/
inductive Piece where
  | char (c : Char)
  | lone (u : UInt16)
  deriving DecidableEq, Repr

/-- A unit that is not the first half of a pair. -/
def single (u : UInt16) : Piece :=
  if isHigh u || isLow u then .lone u else .char (Char.ofNat u.toNat)

/-- Splits a unit sequence from left to right; a high surrogate pairs with the unit after it
whenever that one is low. -/
def pieces : List UInt16 → List Piece
  | [] => []
  | [u] => [single u]
  | u :: v :: rest =>
    if isHigh u && isLow v then .char (pair u v) :: pieces rest
    else single u :: pieces (v :: rest)

def Piece.char? : Piece → Option Char
  | .char c => some c
  | .lone _ => none

/-- U+FFFD stands for an unpaired surrogate. -/
def Piece.lossy : Piece → Char
  | .char c => c
  | .lone _ => Char.ofNat 0xFFFD

/-- The characters of a unit sequence, if every surrogate in it is paired. -/
def decode (us : List UInt16) : Option (List Char) := (pieces us).mapM Piece.char?

def decodeLossy (us : List UInt16) : List Char := (pieces us).map Piece.lossy

end Unmask.Text.Utf16
