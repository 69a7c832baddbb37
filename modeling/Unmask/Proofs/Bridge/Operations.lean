import Unmask.Proofs.Bridge.Channel
import Unmask.Proofs.Json.Printer

/-!
# Requests and responses stay in step

Whatever becomes of an operation of a bridge, it sends one line and uses up one line. So in a
sequence of operations the `n`-th is answered by the `n`-th line, whatever the others asked and got.
-/

namespace Unmask

/-- The reply with something else made of the answer. -/
def Reply.map {σ α β : Type} (f : α → β) (reply : Reply σ α) : Reply σ β :=
  ⟨f reply.value, reply.log, reply.state⟩

namespace Bridge

/-- What can be asked of a host over a bridge. -/
inductive Operation where
  | load (data : ByteArray)
  | write (m : Module)
  | loadExecutable (data : ByteArray)
  | findType (image : ImageId) (name : String)
  | findMethod (image : ImageId) (typeName name : String)
  | invoke (image : ImageId) (typeName name : String) (args : List Value)

/-- What comes of an operation. -/
inductive Outcome where
  | module (result : Except Error Module)
  | written (result : Except Error ByteArray)
  | image (result : Except Error ImageId)
  | found (found : Bool)
  | value (result : Except Error Value)

/-- The value that is read from the result of a request, if it has one and that is of the kind asked
for. -/
def reading {α : Type} (read : Json → Option α) (onHost : String → Error) :
    Except Failure Json → Except Error α
  | .ok result => (read result).elim (.error .json) .ok
  | .error f => .error (f.toError onHost)

namespace Operation

def request : Operation → Request
  | .load data => .loadModule data
  | .write m => .writeModule m
  | .loadExecutable data => .loadExecutable data
  | .findType image name => .findType image name
  | .findMethod image typeName name => .findMethod image typeName name
  | .invoke image typeName name args => .invoke image typeName name args

def perform : Operation → Bridge → Reply Bridge Outcome
  | .load data, b => (codec.load data b).map .module
  | .write m, b => (codec.write m b).map .written
  | .loadExecutable data, b => (host.load data b).map .image
  | .findType image name, b => (host.findType image name b).map .found
  | .findMethod image typeName name, b => (host.findMethod image typeName name b).map .found
  | .invoke image typeName name args, b => (host.invoke image typeName name args b).map .value

/-- What an operation makes of an error on the way to the host. -/
def failed (e : Error) : Operation → Outcome
  | .load _ => .module (.error e)
  | .write _ => .written (.error e)
  | .loadExecutable _ => .image (.error e)
  | .findType _ _ => .found false
  | .findMethod _ _ _ => .found false
  | .invoke _ _ _ _ => .value (.error e)

/-- The error that a response stands for which refuses the request of an operation. -/
def refusal (message : String) : Operation → Error
  | .loadExecutable _ => .oracleUnavailable message
  | .invoke _ typeName name _ => .invocation (typeName ++ "::" ++ name) message
  | .load _ | .write _ | .findType _ _ | .findMethod _ _ _ => .bridge message

/-- What an operation makes of what its request comes to. -/
def settled (e : Except Failure Json) : Operation → Outcome
  | .load _ => .module (reading Module.ofJson? .bridge e)
  | .write _ =>
    .written ((reading Json.toStr? .bridge e).bind fun text =>
      (Base64.decodeBytes? text).elim (.error .base64) .ok)
  | .loadExecutable _ => .image (reading Json.toUInt32? .oracleUnavailable e)
  | .findType _ _ | .findMethod _ _ _ =>
    .found ((reading Json.toBool? .bridge e).toOption.getD false)
  | .invoke _ typeName name _ =>
    .value (reading Value.ofJson? (.invocation (typeName ++ "::" ++ name)) e)

end Operation

/-! ## One operation -/

section Step

variable {α β : Type} {r : Request} {op : Bridge → Reply Bridge α}

theorem OneLineStep.map (h : OneLineStep r op) (f : α → β) :
    OneLineStep r fun b => (op b).map f :=
  h.of_reply (fun _ => rfl) fun _ _ hvalue hlog => ⟨congrArg f hvalue, hlog⟩

theorem lookup_step (what : String) (r : Request) : OneLineStep r (lookup what r) := by
  refine (request_step Json.toBool? .bridge r).of_reply (fun b => ?_) fun b b' hvalue hlog => ?_
  · unfold lookup
    cases hreply : (request Json.toBool? .bridge r b).value <;> simp only [hreply]
  · unfold lookup
    simp only [hvalue, hlog]
    cases hreply : (request Json.toBool? .bridge r b').value <;> exact ⟨rfl, rfl⟩

theorem load_step (data : ByteArray) : OneLineStep (.loadModule data) (codec.load data) :=
  request_step _ _ _

theorem write_step (m : Module) : OneLineStep (.writeModule m) (codec.write m) := by
  refine (request_step Json.toStr? .bridge (.writeModule m)).of_reply (fun _ => rfl)
    fun b b' hvalue hlog => ⟨?_, hlog⟩
  simp only [codec, hvalue]

theorem loadExecutable_step (data : ByteArray) :
    OneLineStep (.loadExecutable data) (host.load data) := by
  refine (request_step Json.toUInt32? .oracleUnavailable (.loadExecutable data)).of_reply
    (fun b => ?_) fun b b' hvalue hlog => ?_
  · simp only [host]
    cases (request Json.toUInt32? .oracleUnavailable (.loadExecutable data) b).value <;> rfl
  · simp only [host, hvalue, hlog]
    cases (request Json.toUInt32? .oracleUnavailable (.loadExecutable data) b').value with
    | error e => exact ⟨hvalue, hlog⟩
    | ok id => exact ⟨rfl, rfl⟩

theorem findType_step (image : ImageId) (name : String) :
    OneLineStep (.findType image name) (host.findType image name) := lookup_step _ _

theorem findMethod_step (image : ImageId) (typeName name : String) :
    OneLineStep (.findMethod image typeName name) (host.findMethod image typeName name) :=
  lookup_step _ _

theorem invoke_step (image : ImageId) (typeName name : String) (args : List Value) :
    OneLineStep (.invoke image typeName name args) (host.invoke image typeName name args) :=
  request_step _ _ _

end Step

theorem Operation.step (op : Operation) : OneLineStep op.request op.perform := by
  cases op with
  | load data => exact (load_step data).map _
  | write m => exact (write_step m).map _
  | loadExecutable data => exact (loadExecutable_step data).map _
  | findType image name => exact (findType_step image name).map _
  | findMethod image typeName name => exact (findMethod_step image typeName name).map _
  | invoke image typeName name args => exact (invoke_step image typeName name args).map _

/-! ## The answer to one operation -/

section Answer

variable {α : Type} {unread : List (List UInt8)} {line : List UInt8} {text : String}
  {response : Response}

theorem request_value (read : Json → Option α) (onHost : String → Error) (r : Request) :
    (request read onHost r (opened unread [])).value =
      reading read onHost (exchange { unread } r).1 := by
  simp only [request, connect, opened]
  cases (exchange { unread } r).1 with
  | error f => rfl
  | ok result => cases hread : read result <;> simp [reading, hread]

theorem write_value (m : Module) : (codec.write m (opened unread [])).value =
    (reading Json.toStr? .bridge (exchange { unread } (.writeModule m)).1).bind fun text =>
      (Base64.decodeBytes? text).elim (.error .base64) .ok := by
  simp only [codec, request_value]
  cases reading Json.toStr? .bridge (exchange { unread } (.writeModule m)).1 with
  | error e => rfl
  | ok text => cases hdata : Base64.decodeBytes? text <;> simp [Except.bind, hdata]

theorem loadExecutable_value (data : ByteArray) : (host.load data (opened unread [])).value =
    reading Json.toUInt32? .oracleUnavailable (exchange { unread } (.loadExecutable data)).1 := by
  rw [← request_value]
  simp only [host]
  cases hreply : (request Json.toUInt32? .oracleUnavailable (.loadExecutable data)
    (opened unread [])).value <;> simp only [hreply]

theorem lookup_value (what : String) (r : Request) : (lookup what r (opened unread [])).value =
    (reading Json.toBool? .bridge (exchange { unread } r).1).toOption.getD false := by
  simp only [lookup, request_value]
  cases reading Json.toBool? .bridge (exchange { unread } r).1 <;> rfl

/-- The answer to an operation is what it makes of the exchange of its request. -/
theorem Operation.answer_value (op : Operation) (line? : Option (List UInt8)) :
    (answer op.perform line?).value =
      op.settled (exchange { unread := line?.toList } op.request).1 := by
  cases op with
  | load data => exact congrArg Outcome.module (request_value _ _ _)
  | write m => exact congrArg Outcome.written (write_value m)
  | loadExecutable data => exact congrArg Outcome.image (loadExecutable_value data)
  | findType image name => exact congrArg Outcome.found (lookup_value _ _)
  | findMethod image typeName name => exact congrArg Outcome.found (lookup_value _ _)
  | invoke image typeName name args => exact congrArg Outcome.value (request_value _ _ _)

/-- An operation takes a line that is a response at its word: if its request is granted it reads its
answer from the result there, and else it fails for the reason given there. -/
theorem Operation.answer_some (op : Operation) (htext : String.fromUTF8? ⟨line.toArray⟩ = some text)
    (hresponse : Response.parse? text = some response) :
    (answer op.perform (some line)).value =
      if response.ok then op.settled (.ok response.result)
      else op.failed (op.refusal (response.error.getD "unspecified host error")) := by
  have hexchange : (exchange { unread := [line] } op.request).1 =
      if response.ok then .ok response.result
      else .error (.host (response.error.getD "unspecified host error")) := by
    simp only [exchange, Channel.send_eq, Channel.receive, htext, hresponse]
    cases response.ok <;> rfl
  rw [op.answer_value, Option.toList_some, hexchange]
  cases response.ok with
  | true => rfl
  | false => cases op <;> rfl

/-- A type is found if the result says so, and not if the request is refused. -/
example :
    let line (text : String) : Option (List UInt8) := some text.toUTF8.toList
    let found (text : String) : Bool := (answer (host.findType 1 "Numbers") (line text)).value
    found "\x7b\"ok\":true,\"result\":true\x7d\n" = true ∧
      found "\x7b\"ok\":false,\"result\":true\x7d\n" = false := by
  decide +kernel

end Answer

theorem close_opened (unread : List (List UInt8)) (sent : List String) :
    (opened unread sent).close =
      { value := (), state := opened unread (sent ++ [Request.shutdown.line]) } := rfl

/-! ## A sequence of operations -/

/-- The bridge after some operations. -/
def after (ops : List Operation) (b : Bridge) : Bridge :=
  ops.foldl (fun b op => (op.perform b).state) b

end Bridge

end Unmask
