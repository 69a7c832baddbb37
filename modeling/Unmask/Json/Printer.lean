import Unmask.Json.Basic
import Unmask.Text.Display

/-!
# JSON text

`compress` writes a value on one line, `pretty` with one item a line and two spaces a level.
Control characters are always written as escapes, so compressed text holds no line break.
-/

namespace Unmask.Json

def escapeChar (c : Char) : List Char :=
  if c = '"' then ['\\', '"']
  else if c = '\\' then ['\\', '\\']
  else if c = '\n' then ['\\', 'n']
  else if c = '\r' then ['\\', 'r']
  else if c = '\t' then ['\\', 't']
  else if c = '\x08' then ['\\', 'b']
  else if c = '\x0c' then ['\\', 'f']
  else if c.toNat < 0x20 then '\\' :: 'u' :: (Text.hexLower 4 c.toNat).toList
  else [c]

def quoted (s : String) : String :=
  "\"" ++ String.ofList (s.toList.flatMap escapeChar) ++ "\""

/-- The text of a value without items. -/
def atom : Json → String
  | .bool true => "true"
  | .bool false => "false"
  | .int n => toString n
  | .real m e => toString m ++ "e" ++ toString e
  | .str s => quoted s
  | _ => "null"

mutual

def compress : Json → String
  | .arr items => "[" ++ ",".intercalate (compressItems items) ++ "]"
  | .obj fields => "\x7b" ++ ",".intercalate (compressFields fields) ++ "\x7d"
  | .null => "null"
  | .bool b => atom (.bool b)
  | .int n => atom (.int n)
  | .real m e => atom (.real m e)
  | .str s => atom (.str s)

def compressItems : List Json → List String
  | [] => []
  | j :: rest => compress j :: compressItems rest

def compressFields : List (String × Json) → List String
  | [] => []
  | (k, j) :: rest => (quoted k ++ ":" ++ compress j) :: compressFields rest

end

/-- `parts` between `left` and `right`, each on a line of its own, one level deeper than `depth`. -/
def block (left right : String) (depth : Nat) : List String → String
  | [] => left ++ right
  | parts =>
    let pad (n : Nat) : String := "\n" ++ String.ofList (List.replicate (2 * n) ' ')
    left ++ pad (depth + 1) ++ ("," ++ pad (depth + 1)).intercalate parts ++ pad depth ++ right

mutual

def prettyAt (depth : Nat) : Json → String
  | .arr items => block "[" "]" depth (prettyItems (depth + 1) items)
  | .obj fields => block "\x7b" "\x7d" depth (prettyFields (depth + 1) fields)
  | .null => "null"
  | .bool b => atom (.bool b)
  | .int n => atom (.int n)
  | .real m e => atom (.real m e)
  | .str s => atom (.str s)

def prettyItems (depth : Nat) : List Json → List String
  | [] => []
  | j :: rest => prettyAt depth j :: prettyItems depth rest

def prettyFields (depth : Nat) : List (String × Json) → List String
  | [] => []
  | (k, j) :: rest => (quoted k ++ ": " ++ prettyAt depth j) :: prettyFields depth rest

end

def pretty (j : Json) : String := prettyAt 0 j

end Unmask.Json
