import Unmask.Log
import Unmask.Module.Basic
import Unmask.Value

/-!
# Hosts

A host loads an executable image and runs its methods; a codec turns images into modules and back.
Both are arbitrary state machines: an answer may depend on everything asked before, and any
question may fail.
-/

namespace Unmask

/-- An answer, the records left while finding it, and the state after it. -/
structure Reply (σ α : Type) where
  value : α
  log : List LogRecord := []
  state : σ

/-- The number by which a host knows a loaded image. -/
abbrev ImageId := UInt32

structure Host (σ : Type) where
  load : ByteArray → σ → Reply σ (Except Error ImageId)
  /-- Whether the image has a type of this reflection name. -/
  findType : ImageId → String → σ → Reply σ Bool
  /-- Whether the type has a method of this name. -/
  findMethod : ImageId → String → String → σ → Reply σ Bool
  invoke : ImageId → String → String → List Value → σ → Reply σ (Except Error Value)

structure Codec (σ : Type) where
  load : ByteArray → σ → Reply σ (Except Error Module)
  write : Module → σ → Reply σ (Except Error ByteArray)

end Unmask
