/-!
# Paths

Paths are texts with components between slashes. Repeated slashes, a slash at the end and a lone
dot that is not the first component mean nothing.
-/

namespace Unmask.Path

/-- A component that means something. -/
inductive Part where
  | root
  | current
  | parent
  | name (s : String)
  deriving DecidableEq, Repr, Inhabited

def isAbsolute (path : String) : Bool := path.toList.head? = some '/'

/-- The texts between separators. -/
def splitAt (separator : Char) (s : String) : List String :=
  let cs := s.toList.foldr (fun c acc =>
    if c = separator then [] :: acc
    else
      match acc with
      | [] => [[c]]
      | piece :: rest => (c :: piece) :: rest) [[]]
  cs.map String.ofList

/-- The texts between slashes. -/
def pieces (path : String) : List String := splitAt '/' path

def part? (piece : String) : Option Part :=
  if piece.isEmpty || piece = "." then none
  else if piece = ".." then some .parent
  else some (.name piece)

def parts (path : String) : List Part :=
  let body := (pieces path).filterMap part?
  if isAbsolute path then .root :: body
  else if (pieces path).head? = some "." then .current :: body
  else body

/-- The name of the file or directory itself, none for a path that ends in `..` or a root. -/
def fileName? (path : String) : Option String :=
  match (parts path).getLast? with
  | some (.name s) => some s
  | _ => none

/-- A name split at its last dot; a dot in front does not count. -/
def splitName (name : String) : String × Option String :=
  let cs := name.toList
  let after := (cs.reverse.takeWhile (· ≠ '.')).reverse
  let before := cs.take (cs.length - after.length - 1)
  if after.length = cs.length || before.isEmpty then (name, none)
  else (String.ofList before, some (String.ofList after))

def stem? (path : String) : Option String := (fileName? path).map fun name => (splitName name).1

def extension? (path : String) : Option String := (fileName? path).bind fun name => (splitName name).2

/-- Drops slashes and lone dots that mean nothing from the end. -/
def trimEnd : Nat → List Char → List Char
  | 0, rev => rev
  | fuel + 1, rev =>
    match rev with
    | ['/'] => ['/']
    | '/' :: rest => trimEnd fuel rest
    | '.' :: '/' :: rest => trimEnd fuel ('/' :: rest)
    | rest => rest

/-- The path without its last component. -/
def parent? (path : String) : Option String :=
  match (parts path).getLast? with
  | none | some .root => none
  | some _ =>
    let trim (rev : List Char) : List Char := trimEnd (rev.length + 1) rev
    let rev := trim path.toList.reverse
    some (String.ofList (trim (rev.dropWhile (· ≠ '/'))).reverse)

def join (base path : String) : String :=
  if isAbsolute path || base.isEmpty then path
  else if base.toList.getLast? = some '/' then base ++ path
  else base ++ "/" ++ path

/-- The directories of a search path, which stand between colons. -/
def searchList (s : String) : List String := splitAt ':' s

end Unmask.Path
