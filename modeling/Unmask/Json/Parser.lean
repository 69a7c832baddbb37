import Unmask.Decimal.Rounding
import Unmask.Json.Basic
import Unmask.Text.Utf16

/-!
# Reading JSON text

A strict reader: no comments, no trailing commas, no control characters in strings, no unpaired
surrogate escapes, at most 127 nested arrays and objects, and no number above the range of binary64.
Of two fields with one name in an object the later one counts.

`readRecord` reads the fields of one object by name. A field that nobody asks for only has to be
well-formed: neither its depth, nor its numbers, nor the surrogates in its strings are checked.
-/

namespace Unmask.Json

/-- The result of reading from the front of a text: what was read, and the rest. -/
abbrev Read (α : Type) := Option (α × List Char)

def isBlank (c : Char) : Bool := c = ' ' || c = '\n' || c = '\t' || c = '\r'

def skipBlank (cs : List Char) : List Char := cs.dropWhile isBlank

def hexDigit? (c : Char) : Option Nat :=
  if '0' ≤ c ∧ c ≤ '9' then some (c.toNat - 48)
  else if 'a' ≤ c ∧ c ≤ 'f' then some (c.toNat - 87)
  else if 'A' ≤ c ∧ c ≤ 'F' then some (c.toNat - 55)
  else none

def unit? (a b c d : Char) : Option UInt16 := do
  let a ← hexDigit? a
  let b ← hexDigit? b
  let c ← hexDigit? c
  let d ← hexDigit? d
  return UInt16.ofNat (((a * 16 + b) * 16 + c) * 16 + d)

def simpleEscape? : Char → Option Char
  | '"' => some '"'
  | '\\' => some '\\'
  | '/' => some '/'
  | 'b' => some '\x08'
  | 'f' => some '\x0c'
  | 'n' => some '\n'
  | 'r' => some '\r'
  | 't' => some '\t'
  | _ => none

/-- The rest of a string after its opening quote. Without `strict`, U+FFFD stands for an unpaired
surrogate. -/
def readString (strict : Bool) (acc : List Char) : List Char → Read String
  | [] => none
  | '"' :: rest => some (String.ofList acc.reverse, rest)
  | '\\' :: 'u' :: a :: b :: c :: d :: '\\' :: 'u' :: a' :: b' :: c' :: d' :: rest =>
    match unit? a b c d with
    | none => none
    | some u =>
      match Text.Utf16.single u, unit? a' b' c' d' with
      | .char x, _ =>
        readString strict (x :: acc) ('\\' :: 'u' :: a' :: b' :: c' :: d' :: rest)
      | .lone _, none => none
      | .lone _, some v =>
        if Text.Utf16.isHigh u && Text.Utf16.isLow v then
          readString strict (Text.Utf16.pair u v :: acc) rest
        else if strict then none
        else readString strict ('\uFFFD' :: acc) ('\\' :: 'u' :: a' :: b' :: c' :: d' :: rest)
  | '\\' :: 'u' :: a :: b :: c :: d :: rest =>
    match unit? a b c d with
    | none => none
    | some u =>
      match Text.Utf16.single u with
      | .char x => readString strict (x :: acc) rest
      | .lone _ => if strict then none else readString strict ('\uFFFD' :: acc) rest
  | '\\' :: c :: rest =>
    match simpleEscape? c with
    | none => none
    | some x => readString strict (x :: acc) rest
  | c :: rest => if c.toNat < 0x20 then none else readString strict (c :: acc) rest

def natOfDigits (ds : List Char) : Nat :=
  ds.foldl (fun n c => n * 10 + (c.toNat - 48)) 0

/-- Appends digits to a significand as long as 64 bits hold it. Returns it with the digits that are
left over. -/
def fillSignificand : Nat → List Char → Nat × List Char
  | n, [] => (n, [])
  | n, c :: rest =>
    let next := n * 10 + (c.toNat - 48)
    if next < UInt64.size then fillSignificand next rest else (n, c :: rest)

/-- Whether a significand times a power of ten is finite in binary64, where both factors are rounded
before they are multiplied. -/
def isFinite (significand : Nat) (exponent : Int) : Bool :=
  if significand = 0 || exponent < 0 then true
  else if 308 < exponent then false
  else
    let f := Decimal.toBinary ⟨significand, 1⟩
    let p := Decimal.toBinary ⟨Decimal.pow10 exponent.toNat, 1⟩
    f.num * p.num < (Decimal.pow2 1024 - Decimal.pow2 970) * (f.den * p.den)

/-- A fraction or exponent part, which needs at least one digit. -/
def readDigits (cs : List Char) : Read (List Char) :=
  match cs.span Char.isDigit with
  | ([], _) => none
  | r => some r

def readExponent : List Char → Read Int
  | '+' :: cs => (readDigits cs).map fun (ds, rest) => ((natOfDigits ds : Int), rest)
  | '-' :: cs => (readDigits cs).map fun (ds, rest) => (-(natOfDigits ds : Int), rest)
  | cs => (readDigits cs).map fun (ds, rest) => ((natOfDigits ds : Int), rest)

/-- A number in whole digits that 64 bits hold. It is an integer if they hold it with its sign;
`-0` is none. -/
def wholeNumber (negative : Bool) (n : Nat) : Json :=
  if !negative then .int n
  else if n ≠ 0 ∧ n ≤ 0x8000000000000000 then .int (-(n : Int))
  else .real (-(n : Int)) 0

/-- A number, of which only the leading digits are kept: whole digits that do not fit the
significand any more raise the exponent, and digits of the fraction that do not fit are dropped. -/
def readNumber (strict : Bool) (cs : List Char) : Option (Json × List Char) := do
  let (negative, cs) := match cs with
    | '-' :: rest => (true, rest)
    | _ => (false, cs)
  let (whole, cs) ← readDigits cs
  if 1 < whole.length && whole.head? == some '0' then none
  else
    let (fraction, cs) ← match cs with
      | '.' :: rest => (readDigits rest).map fun (ds, rest) => (some ds, rest)
      | _ => some (none, cs)
    let (scale, cs) ← match cs with
      | 'e' :: rest => (readExponent rest).map fun (e, rest) => (some e, rest)
      | 'E' :: rest => (readExponent rest).map fun (e, rest) => (some e, rest)
      | _ => some (none, cs)
    let (leading, uncounted) := fillSignificand 0 whole
    let (significand, dropped) := fillSignificand leading (fraction.getD [])
    let places : Int := ((fraction.getD []).length - dropped.length : Nat)
    let exponent := uncounted.length - places + scale.getD 0
    if strict && !isFinite significand exponent then none
    else if fraction.isNone && scale.isNone && uncounted.isEmpty then
      some (wholeNumber negative significand, cs)
    else some (.real (if negative then -(significand : Int) else significand) exponent, cs)

/-- Keeps the last field of each name. -/
def lastFields : List (String × Json) → List (String × Json)
  | [] => []
  | (k, v) :: rest => if rest.any (·.1 == k) then lastFields rest else (k, v) :: lastFields rest

/-- How values inside arrays and objects are checked: strictly down to a depth, or not at all. -/
structure Mode where
  strict : Bool
  depth : Nat

mutual

/-- A value after blanks. Every call spends one unit of fuel and reads at least one character
before the next one, so the length of the text is fuel enough. -/
def readValue : Nat → Mode → List Char → Read Json
  | 0, _, _ => none
  | fuel + 1, mode, cs =>
    match skipBlank cs with
    | 'n' :: 'u' :: 'l' :: 'l' :: rest => some (.null, rest)
    | 't' :: 'r' :: 'u' :: 'e' :: rest => some (.bool true, rest)
    | 'f' :: 'a' :: 'l' :: 's' :: 'e' :: rest => some (.bool false, rest)
    | '"' :: rest => (readString mode.strict [] rest).map fun (s, rest) => (.str s, rest)
    | '[' :: rest =>
      if mode.strict && mode.depth ≤ 1 then none
      else
        match skipBlank rest with
        | ']' :: rest => some (.arr [], rest)
        | rest =>
          (readItems fuel ⟨mode.strict, mode.depth - 1⟩ rest).map
            fun (items, rest) => (.arr items, rest)
    | '\x7b' :: rest =>
      if mode.strict && mode.depth ≤ 1 then none
      else
        match skipBlank rest with
        | '\x7d' :: rest => some (.obj [], rest)
        | rest =>
          (readFields fuel ⟨mode.strict, mode.depth - 1⟩ (fun _ => mode.strict) rest).map
            fun (fields, rest) => (.obj (lastFields fields), rest)
    | rest => readNumber mode.strict rest

/-- The items of an array up to and with its closing bracket. -/
def readItems : Nat → Mode → List Char → Read (List Json)
  | 0, _, _ => none
  | fuel + 1, mode, cs =>
    match readValue fuel mode cs with
    | none => none
    | some (j, rest) =>
      match skipBlank rest with
      | ']' :: rest => some ([j], rest)
      | ',' :: rest => (readItems fuel mode rest).map fun (js, rest) => (j :: js, rest)
      | _ => none

/-- The fields of an object up to and with its closing brace; `check` tells which of them are read
strictly. -/
def readFields : Nat → Mode → (String → Bool) → List Char → Read (List (String × Json))
  | 0, _, _, _ => none
  | fuel + 1, mode, check, cs =>
    match skipBlank cs with
    | '"' :: rest =>
      match readString mode.strict [] rest with
      | none => none
      | some (key, rest) =>
        match skipBlank rest with
        | ':' :: rest =>
          match readValue fuel ⟨check key, mode.depth⟩ rest with
          | none => none
          | some (j, rest) =>
            match skipBlank rest with
            | '\x7d' :: rest => some ([(key, j)], rest)
            | ',' :: rest =>
              (readFields fuel mode check rest).map fun (js, rest) => ((key, j) :: js, rest)
            | _ => none
        | _ => none
    | _ => none

end

/-- At most this many arrays and objects may be open at once, less one. -/
def depthLimit : Nat := 128

def strictMode : Mode := ⟨true, depthLimit⟩

/-- What was read, if only blanks follow. -/
def atEnd {α : Type} : Read α → Option α
  | some (a, rest) => if (skipBlank rest).isEmpty then some a else none
  | none => none

def parse? (text : String) : Option Json :=
  let cs := text.toList
  atEnd (readValue (cs.length + 1) strictMode cs)

/-- The named fields of an object, or the items of an array in their place. -/
inductive Record where
  | fields (fields : List (String × Json))
  | items (items : List Json)

/-- Reads an object of which only the fields in `names` matter. All fields are returned, a
repeated name as often as it stands there. -/
def readRecord? (names : List String) (text : String) : Option Record :=
  let cs := text.toList
  let fuel := cs.length + 1
  match skipBlank cs with
  | '\x7b' :: rest =>
    match skipBlank rest with
    | '\x7d' :: rest => atEnd (some (.fields [], rest))
    | rest =>
      (atEnd (readFields fuel ⟨true, depthLimit - 1⟩ (fun k => names.contains k) rest)).map .fields
  | _ =>
    match parse? text with
    | some (.arr items) => some (.items items)
    | _ => none

end Unmask.Json
