import Unmask.Files.Basic

/-!
# Snapshots

A file system of which only some facts are known: what certain files hold, and which paths are
directories, plain files or closed to writing. Writes are collected, to be carried out later.
-/

namespace Unmask

structure Snapshot where
  contents : List (String × Except ReadError ByteArray) := []
  directories : List String := []
  plainFiles : List String := []
  /-- Paths that cannot be written. -/
  refused : List String := []
  /-- What was written, oldest first. -/
  written : List (String × ByteArray) := []

namespace Snapshot

/-- Of a path that nothing is known of, nothing can be read. -/
def fileSystem : FileSystem Snapshot where
  read path s := (s.contents.lookup path).getD (.error .missing)
  isDirectory path s := s.directories.contains path
  isFile path s := s.plainFiles.contains path
  write path content s :=
    if s.refused.contains path then none
    else some { s with written := s.written ++ [(path, content)] }

end Snapshot

end Unmask
