/-!
# File systems

What a command needs of the files around it, over any state: reading may fail, and a write either
takes place or fails and changes nothing.
-/

namespace Unmask

inductive ReadError where
  /-- There is nothing to open. -/
  | missing
  /-- What was opened has no content. -/
  | directory
  deriving DecidableEq, Repr, Inhabited

structure FileSystem (φ : Type) where
  read : String → φ → Except ReadError ByteArray
  isDirectory : String → φ → Bool
  isFile : String → φ → Bool
  /-- The state after a write, if it succeeds. -/
  write : String → ByteArray → φ → Option φ

end Unmask
