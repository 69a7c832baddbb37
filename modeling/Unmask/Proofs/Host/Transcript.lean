import Unmask.Proofs.Engine.Simulation

/-!
# Transcripts

A host can be made to keep a record of what it is asked and what it answers. The record makes no
difference to a run, so what holds of the transcripts of runs with a recording host holds of the
questions that a run puts to any host.
-/

namespace Unmask

/-- A question put to a host, and the answer. -/
inductive Exchange where
  | load (data : ByteArray) (answer : Except Error ImageId)
  | findType (image : ImageId) (name : String) (found : Bool)
  | findMethod (image : ImageId) (typeName name : String) (found : Bool)
  | invoke (image : ImageId) (typeName name : String) (args : List Value)
      (answer : Except Error Value)

/-- The name asked for in the look-up of a type. -/
def Exchange.typeName? : Exchange → Option String
  | .findType _ name _ => some name
  | _ => none

variable {σ : Type}

/-- The host with a record of the exchanges with it. -/
def Host.recording (host : Host σ) : Host (σ × List Exchange) where
  load data s :=
    let reply := host.load data s.1
    reply.keeping (s.2 ++ [.load data reply.value])
  findType image name s :=
    let reply := host.findType image name s.1
    reply.keeping (s.2 ++ [.findType image name reply.value])
  findMethod image typeName name s :=
    let reply := host.findMethod image typeName name s.1
    reply.keeping (s.2 ++ [.findMethod image typeName name reply.value])
  invoke image typeName name args s :=
    let reply := host.invoke image typeName name args s.1
    reply.keeping (s.2 ++ [.invoke image typeName name args reply.value])

/-- The record makes no difference to the answers. -/
theorem Host.recording_alike (host : Host σ) :
    host.recording.Alike (fun s t => s.1 = t) host where
  load _ _ _ h := h ▸ ⟨rfl, rfl, rfl⟩
  findType _ _ _ _ h := h ▸ ⟨rfl, rfl, rfl⟩
  findMethod _ _ _ _ _ h := h ▸ ⟨rfl, rfl, rfl⟩
  invoke _ _ _ _ _ _ h := h ▸ ⟨rfl, rfl, rfl⟩

namespace Engine

/-- The engine with a recording host. -/
def recording (e : Engine σ) : Engine (σ × List Exchange) where
  config := e.config
  resolver := e.resolver
  host := e.host.map Host.recording

theorem recording_alike (e : Engine σ) : e.recording.Alike (fun s t => s.1 = t) e where
  config := rfl
  resolver := rfl
  host := by
    unfold recording
    cases e.host with
    | none => exact .none
    | some host => exact .some host.recording_alike

/-- What a run over a module asks its host, and the answers. -/
def exchanges (e : Engine σ) (data : ByteArray) (m : Module) (s : σ) : List Exchange :=
  (e.recording.process data m (s, [])).state.2

end Engine

end Unmask
