import Unmask.Files.Basic
import Unmask.Files.Path

/-!
# File trees

A file system that is all in memory, below one working directory. Of the world outside only the
directories around the working directory and a few landmarks are known; a file written there is not
kept.

A path is followed piece by piece. Every piece but the last has to lead to a directory, and an empty
piece or a dot stays where it is.
-/

namespace Unmask

/-- Why a path leads nowhere. -/
inductive PathError where
  | missing
  | notDirectory
  | tooLong
  /-- The path holds a zero character. -/
  | zero
  deriving DecidableEq, Repr, Inhabited

/-- The files and directories below a working directory, by the names on the way to them. -/
structure Tree where
  directories : List (List String) := []
  files : List (List String × ByteArray) := []

namespace Tree

/-- What can be found outside the working directory. -/
inductive Landmark where
  | directory
  /-- A file that takes everything written to it and has no content. -/
  | sink
  /-- A file with some text. -/
  | text
  deriving DecidableEq, Repr, Inhabited

/-- What every system has, by the names on the way from the root. -/
def landmarks : List (List String × Landmark) :=
  [([], .directory), (["boot"], .directory), (["dev"], .directory), (["etc"], .directory),
   (["home"], .directory), (["media"], .directory), (["mnt"], .directory), (["opt"], .directory),
   (["proc"], .directory), (["root"], .directory), (["run"], .directory), (["srv"], .directory),
   (["sys"], .directory), (["tmp"], .directory), (["usr"], .directory),
   (["usr", "bin"], .directory), (["usr", "lib"], .directory), (["usr", "lib64"], .directory),
   (["usr", "local"], .directory), (["usr", "local", "bin"], .directory),
   (["usr", "sbin"], .directory), (["usr", "share"], .directory), (["var"], .directory),
   (["var", "lib"], .directory), (["var", "log"], .directory), (["var", "tmp"], .directory),
   (["dev", "null"], .sink), (["etc", "group"], .text), (["etc", "hostname"], .text),
   (["etc", "hosts"], .text), (["etc", "passwd"], .text), (["etc", "resolv.conf"], .text)]

/-- Places that are links, and where they lead. -/
def links : List (List String × List String) :=
  [(["bin"], ["usr", "bin"]), (["lib"], ["usr", "lib"]), (["lib64"], ["usr", "lib64"]),
   (["sbin"], ["usr", "sbin"]), (["var", "run"], ["run"])]

/-- What a piece leads to from a directory outside. -/
def landmark? (names : List String) (piece : String) : Option (List String × Landmark) :=
  let place := names ++ [piece]
  let place := (links.lookup place).getD place
  (landmarks.lookup place).map fun what => (place, what)

/-- Something that exists: a directory or file below the working directory, or a landmark. A
directory around the working directory is one whose names from the root are not known. -/
inductive Node where
  | directory (names : List String)
  | file (names : List String) (content : ByteArray)
  | outside (names : Option (List String)) (what : Landmark)

def hasDirectory (t : Tree) (names : List String) : Bool :=
  names.isEmpty || t.directories.contains names

def node? (t : Tree) (names : List String) : Option Node :=
  if t.hasDirectory names then some (.directory names)
  else (t.files.lookup names).map (.file names)

/-- The longest name of a file, in bytes. -/
def nameLimit : Nat := 255

/-- The longest path, in bytes. -/
def pathLimit : Nat := 4095

/-- One step from a place that has been reached. -/
def step (t : Tree) (node : Node) (piece : String) : Except PathError Node :=
  let child (found : Option Node) : Except PathError Node :=
    if nameLimit < piece.utf8ByteSize then .error .tooLong
    else
      match found with
      | some child => .ok child
      | none => .error .missing
  match node with
  | .file _ _ | .outside _ .sink | .outside _ .text => .error .notDirectory
  | .directory names =>
    if piece.isEmpty || piece = "." then .ok node
    else if piece = ".." then
      .ok (if names.isEmpty then .outside none .directory else .directory names.dropLast)
    else child (t.node? (names ++ [piece]))
  | .outside names .directory =>
    if piece.isEmpty || piece = "." then .ok node
    else if piece = ".." then .ok (.outside (names.map List.dropLast) .directory)
    else child (names.bind fun names =>
      (landmark? names piece).map fun found => .outside (some found.1) found.2)

def follow (t : Tree) : List String → Node → Except PathError Node
  | [], node => .ok node
  | piece :: rest, node => do t.follow rest (← t.step node piece)

/-- Where a path starts. -/
def origin (path : String) : Node :=
  if Path.isAbsolute path then .outside (some []) .directory else .directory []

/-- What a path as a text rules out. -/
def checkPath (path : String) : Except PathError Unit :=
  if path.toList.contains '\x00' then .error .zero
  else if path.isEmpty then .error .missing
  else if pathLimit < path.utf8ByteSize then .error .tooLong
  else .ok ()

/-- What a path leads to. -/
def find (t : Tree) (path : String) : Except PathError Node := do
  checkPath path
  t.follow (Path.pieces path) (origin path)

/-- Where a file may be written. -/
inductive Place where
  | inside (names : List String)
  | outside
  deriving DecidableEq, Repr, Inhabited

/-- Where a file of this path is or would be. Its directory has to exist, and the path has to end in
a name. -/
def place? (t : Tree) (path : String) : Option Place :=
  let pieces := Path.pieces path
  match checkPath path, pieces.getLast?.bind Path.part?, t.follow pieces.dropLast (origin path) with
  | .ok _, some (.name s), .ok node =>
    if nameLimit < s.utf8ByteSize then none
    else
      match node with
      | .directory names =>
        if t.hasDirectory (names ++ [s]) then none else some (.inside (names ++ [s]))
      | .outside names .directory =>
        match names.bind fun names => landmark? names s with
        | some (_, .directory) => none
        | _ => some .outside
      | _ => none
  | _, _, _ => none

def put (t : Tree) (names : List String) (content : ByteArray) : Tree :=
  { t with files := t.files.filter (fun f => f.1 ≠ names) ++ [(names, content)] }

/-- What stands for the text of a landmark. -/
def landmarkText : ByteArray := "#".toUTF8

def fileSystem : FileSystem Tree where
  read path t :=
    match t.find path with
    | .ok (.file _ content) => .ok content
    | .ok (.outside _ .text) => .ok landmarkText
    | .ok _ => .error .directory
    | .error _ => .error .missing
  isDirectory path t :=
    match t.find path with
    | .ok (.directory _) | .ok (.outside _ .directory) => true
    | _ => false
  isFile path t :=
    match t.find path with
    | .ok (.file _ _) | .ok (.outside _ .text) => true
    | _ => false
  write path content t :=
    match t.place? path with
    | none => none
    | some .outside => some t
    | some (.inside names) => some (t.put names content)

/-- Whether all the pieces stay in one place and one of them is a dot. -/
def endsInDot (pieces : List String) : Bool :=
  pieces.contains "." && pieces.all fun piece => piece.isEmpty || piece = "."

/-- The tree after a walk along some pieces that ends at a directory, where every directory missing
on the way is made. A missing directory that is named by a dot inside it is not made, and one made
outside the working directory is not kept. -/
def makeWay (t : Tree) : List String → Node → Option Tree
  | [], .directory _ | [], .outside _ .directory => some t
  | [], _ => none
  | piece :: rest, node =>
    match t.step node piece with
    | .ok next => t.makeWay rest next
    | .error .missing =>
      if endsInDot rest then none
      else
        match node with
        | .directory names =>
          let made := names ++ [piece]
          { t with directories := t.directories ++ [made] }.makeWay rest (.directory made)
        | _ => some t
    | .error _ => none

/-- The tree with the directory of this path and all around it, if they can be made. The empty path
is the working directory. -/
def makeDirectories (t : Tree) (path : String) : Option Tree :=
  match checkPath path with
  | .ok _ => t.makeWay (Path.pieces path) (origin path)
  | .error _ => if path.isEmpty then some t else none

/-- A tree with some directories, in which some files are then written one after the other. There is
none if one of these steps fails: a file is written only into a directory that is there. -/
def ofEntries? (directories : List String) (files : List (String × ByteArray)) : Option Tree := do
  let t ← directories.foldlM makeDirectories {}
  files.foldlM (fun t file => fileSystem.write file.1 file.2 t) t

end Tree

end Unmask
