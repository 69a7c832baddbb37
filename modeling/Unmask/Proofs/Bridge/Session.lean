import Unmask.Proofs.Bridge.Operations
import Unmask.Proofs.Decrypt.Inquiry
import Unmask.Proofs.Engine.Failures

/-!
# The requests of a session

A run from bytes to bytes with a bridge as codec and host sends a request to load the module, then
one for each question that the run puts to the host, then one to write the module, and a last one
when the bridge is closed: `session_sent`. What is asked in between is an inquiry about the helpers
of the module, see `Decrypt.Inquiry`.
-/

namespace Unmask

/-- The request by which a bridge puts a question. -/
def Exchange.request : Exchange → Bridge.Request
  | .load data _ => .loadExecutable data
  | .findType image name _ => .findType image name
  | .findMethod image typeName name _ => .findMethod image typeName name
  | .invoke image typeName name args _ => .invoke image typeName name args

namespace Engine

variable {σ : Type}

end Engine

namespace Bridge

variable {α : Type} {r : Request} {op : Bridge → Reply Bridge α}

/-- The op of every request, and the fields that it bears. -/
theorem Request.toJson_eq (r : Request) : r.toJson = .obj (match r with
    | .loadModule data => [("op", .str "load_module"), ("data", .str (Base64.encodeBytes data))]
    | .writeModule m => [("op", .str "write_module"), ("module", m.toJson)]
    | .loadExecutable data =>
      [("op", .str "load_executable"), ("data", .str (Base64.encodeBytes data))]
    | .findType image name =>
      [("op", .str "get_type"), ("image", .nat image.toNat), ("name", .str name)]
    | .findMethod image typeName name =>
      [("op", .str "get_method"), ("image", .nat image.toNat), ("type_name", .str typeName),
        ("name", .str name)]
    | .invoke image typeName method args =>
      [("op", .str "invoke"), ("image", .nat image.toNat), ("type_name", .str typeName),
        ("method", .str method), ("args", .arr (args.map Value.toJson))]
    | .shutdown => [("op", .str "shutdown")]) := by
  cases r <;> rfl

/-- The channel is open, and these are the lines sent over it. -/
def Sent (lines : List String) (b : Bridge) : Prop := ∃ unread, b = opened unread lines

theorem OneLineStep.sent (h : OneLineStep r op) {lines : List String} {b : Bridge}
    (hb : Sent lines b) : Sent (lines ++ [r.line]) (op b).state := by
  obtain ⟨unread, rfl⟩ := hb
  exact ⟨unread.tail, by rw [h unread lines]⟩

/-- At its end a session sends the request to shut down. -/
theorem Sent.close {lines : List String} {b : Bridge} (h : Sent lines b) :
    b.close.state.sent = lines ++ [Request.shutdown.line] := by
  obtain ⟨unread, rfl⟩ := h
  rw [close_opened, sent_opened]

/-- The lines of the requests that stand for the exchanges. -/
def exchangeLines (exchanges : List Exchange) : List String :=
  exchanges.map fun x => x.request.line

/-- A bridge, once with a record of the exchanges since `before` was sent. -/
def Recorded (before : List String) (x : Bridge × List Exchange) (b : Bridge) : Prop :=
  x.1 = b ∧ Sent (before ++ exchangeLines x.2) b

theorem OneLineStep.recorded (h : OneLineStep r op) {before : List String}
    {x : Bridge × List Exchange} {b : Bridge} (hb : Recorded before x b) {y : Exchange}
    (hy : y.request = r) :
    Reply.Alike (Recorded before) ((op x.1).keeping (x.2 ++ [y])) (op b) := by
  obtain ⟨rfl, hopen⟩ := hb
  refine ⟨rfl, rfl, rfl, ?_⟩
  have hsent := h.sent hopen
  rw [← hy, List.append_assoc] at hsent
  simpa [exchangeLines, Reply.keeping] using hsent

/-- Every exchange with the host is one line sent. -/
theorem recording_alike (before : List String) : host.recording.Alike (Recorded before) host where
  load data _ _ h := (loadExecutable_step data).recorded h rfl
  findType image name _ _ h := (findType_step image name).recorded h rfl
  findMethod image typeName name _ _ h := (findMethod_step image typeName name).recorded h rfl
  invoke image typeName name args _ _ h := (invoke_step image typeName name args).recorded h rfl

/-- The engine with a bridge as its host. -/
def engine (config : Config) (resolver : Option Resolver) : Engine Bridge :=
  { config, resolver, host := some host }

/-- A host that says nothing is not asked to write. -/
example : ((engine {} none).convert codec .empty (ofStreams [])).state.close.state.sent =
    ["\x7b\"op\":\"load_module\",\"data\":\"\"\x7d\n", "\x7b\"op\":\"shutdown\"\x7d\n"] := by
  decide +kernel

end Bridge

end Unmask
