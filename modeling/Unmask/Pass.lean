import Unmask.Event.Basic
import Unmask.Module.Basic

/-!
# Passes

A pass edits a module, may talk to a host, and keeps a journal. It tells whether it changed the
module; an error would stop the whole run.
-/

namespace Unmask

/-- What a pass leaves: the module, the state of the host, the journal, and whether the module
changed. -/
structure PassRun (σ : Type) where
  module : Module
  state : σ
  journal : Journal := {}
  changed : Except Error Bool

structure Pass (σ : Type) where
  name : String
  description : String
  run : Module → σ → PassRun σ

end Unmask
