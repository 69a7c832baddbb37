import Unmask.Decrypt.Helper
import Unmask.Host.Basic
import Unmask.Module.Edit
import Unmask.Pass

/-!
# Decrypting constants

A call of a decrypt method whose argument is the constant loaded right before it is replaced by the
literal that the live method returns, and the load by a `nop`. Answers, failed ones included, are
kept in a table and asked for only once. A site that cannot be decrypted stays as it is.
-/

namespace Unmask.Decrypt

def passName : String := "constant-decryption"

/-- Which live method answers for floating point literals. -/
inductive NumericOracle where
  /-- The decrypt method of the literal's own kind. -/
  | typeMatched
  /-- The `int64` decrypt method. -/
  | int64Compat
  deriving DecidableEq, Repr, Inhabited

def NumericOracle.name : NumericOracle → String
  | .typeMatched => "TypeMatched"
  | .int64Compat => "Int64Compat"

/-- An answer of a live method, or the text of its failure. -/
abbrev Answer := Except String Value

/-- The answers so far, by live method and argument, in the order asked. -/
structure AnswerTable where
  entries : List ((Token × Int32) × Answer) := []
  deriving Inhabited

namespace AnswerTable

def find? (table : AnswerTable) (key : Token × Int32) : Option Answer := table.entries.lookup key

def insert (table : AnswerTable) (key : Token × Int32) (answer : Answer) : AnswerTable :=
  ⟨table.entries ++ [(key, answer)]⟩

def size (table : AnswerTable) : Nat := table.entries.length

end AnswerTable

/-- The host's state together with the answers it gave. -/
structure Oracle (σ : Type) where
  host : σ
  answers : AnswerTable := {}

/-- A live method that answers for a decrypt method. -/
structure Live where
  image : ImageId
  typeName : String
  method : String
  /-- The decrypt method this is the live form of. -/
  token : Token

/-- The table's answer, or else the host's, which is then kept. -/
def ask {σ : Type} (host : Host σ) (live : Live) (arg : Int32) (o : Oracle σ) :
    Reply (Oracle σ) Answer :=
  match o.answers.find? (live.token, arg) with
  | some answer => { value := answer, state := o }
  | none =>
    let reply := host.invoke live.image live.typeName live.method [.int32 arg] o.host
    let answer := reply.value.mapError Error.message
    { value := answer
      log := reply.log
      state := ⟨reply.state, o.answers.insert (live.token, arg) answer⟩ }

/-- What the walk over the sites of a decrypt method carries along. -/
structure Walk (σ : Type) where
  oracle : Oracle σ
  journal : Journal := {}

def siteEvent (kind : EventKind) (site : Site) (message : String) : Event :=
  { kind, token := some site.method.token, location := some site.index, message,
    pass := some passName }

def failedSite (site : Site) (message reason : String) : Journal :=
  let place := site.method.token.display ++ "+" ++ toString site.index
  ⟨[siteEvent .siteFailed site message], [.debug (place ++ ": " ++ reason)]⟩

/-- How a decrypted literal is shown to someone who watches the run. -/
def shown (i : Instruction) : String :=
  match i.operand with
  | .string s => s.lossy
  | operand => operand.display?.getD ""

/-- The `call` of a decrypt method. -/
def isSite (method : DecryptMethod) (i : Instruction) : Bool :=
  i.opcode = .call && i.method? = some method.token

/-- Decrypts one site. -/
def patchSite {σ : Type} (host : Host σ) (method : DecryptMethod) (live : Live) :
    Patcher (Walk σ) := fun site walk =>
  if !isSite method site.instruction then (none, walk)
  else
    match site.previous?.bind Instruction.constant? with
    | none =>
      let note := failedSite site ("non-constant argument to " ++ method.name)
        ("argument of " ++ method.name ++ " is not a constant")
      (none, { walk with journal := walk.journal ++ note })
    | some arg =>
      let reply := ask host live arg walk.oracle
      let question := method.name ++ "(" ++ toString arg.toInt ++ ")"
      let literal := reply.value.bind fun v => (method.kind.literal v).mapError Error.message
      let journal := walk.journal ++ ⟨[], reply.log⟩
      match literal with
      | .error reason =>
        let note := failedSite site (question ++ ": " ++ reason)
          (question ++ " failed: " ++ reason)
        (none, ⟨reply.state, journal ++ note⟩)
      | .ok load =>
        let note : Journal :=
          ⟨[siteEvent method.kind.eventKind site
              (question ++ " = " ++ load.operand.display?.getD "")],
            [.info (method.kind.label ++ " decrypted: " ++ shown load)]⟩
        (some [⟨site.index - 1, .nop⟩, ⟨site.index, load⟩], ⟨reply.state, journal ++ note⟩)

/-- How far the pass has come. -/
structure Progress (σ : Type) where
  module : Module
  walk : Walk σ
  /-- The number of sites decrypted. -/
  rewritten : Nat := 0

def Progress.note {σ : Type} (p : Progress σ) (journal : Journal) : Progress σ :=
  { p with walk.journal := p.walk.journal ++ journal }

/-- The decrypt method whose live form answers for `method`. -/
def oracleFor? (numeric : NumericOracle) (helper : DecryptHelper) (method : DecryptMethod) :
    Option DecryptMethod :=
  if numeric = .int64Compat && method.kind.isFloat then helper.methodFor? .int64 else some method

def warning (token : Token) (message record : String) : Journal :=
  ⟨[{ kind := .warning, token := some token, message, pass := some passName }], [.warn record]⟩

/-- Decrypts the sites of one method of a helper whose live type was found. -/
def decryptMethod {σ : Type} (host : Host σ) (numeric : NumericOracle) (image : ImageId)
    (helper : DecryptHelper) (p : Progress σ) (method : DecryptMethod) : Progress σ :=
  match oracleFor? numeric helper method with
  | none =>
    p.note (warning method.token ("no oracle for " ++ method.name)
      (helper.runtimeName ++ ": no int64 decrypt method to answer " ++ method.name))
  | some oracle =>
    let name := helper.runtimeName ++ "::" ++ oracle.name
    let reply := host.findMethod image helper.runtimeName oracle.name p.walk.oracle.host
    let p := { p with walk.oracle.host := reply.state }.note ⟨[], reply.log⟩
    if !reply.value then
      p.note (warning method.token ("live method " ++ name ++ " not found")
        ("Live method " ++ name ++ " not found"))
    else
      let live : Live := ⟨image, helper.runtimeName, oracle.name, oracle.token⟩
      let edited := p.module.patch (patchSite host method live) p.walk
      { module := edited.module
        walk := { edited.state with journal := edited.state.journal ++ ⟨[], edited.dropped⟩ }
        rewritten := p.rewritten + edited.count }

/-- Works through the helpers up to the first one whose live type is missing. -/
def decryptHelpers {σ : Type} (host : Host σ) (numeric : NumericOracle) (image : ImageId) :
    List DecryptHelper → Progress σ → Progress σ
  | [], p => p
  | helper :: rest, p =>
    let reply := host.findType image helper.runtimeName p.walk.oracle.host
    let p := { p with walk.oracle.host := reply.state }.note ⟨[], reply.log⟩
    if reply.value then
      decryptHelpers host numeric image rest
        (helper.methods.foldl (decryptMethod host numeric image helper) p)
    else
      p.note
        ⟨[{ kind := .error, token := some helper.typeToken
            message := "live type " ++ helper.runtimeName ++ " not found", pass := some passName }],
          [.warn ("Live type " ++ helper.runtimeName ++ " not found, stopping decryption")]⟩

/-- The helpers of a module, and the records left while looking for them. -/
def helpers (m : Module) : List DecryptHelper × List LogRecord :=
  let found := m.types.map (DecryptHelper.detect m)
  (found.filterMap (·.1), found.flatMap (·.2))

/-- The pass over a whole module. The host is asked to load the image only if there is a helper; a
refusal ends the pass without an error. -/
def run {σ : Type} (host : Host σ) (data : ByteArray) (numeric : NumericOracle) (m : Module)
    (o : Oracle σ) : PassRun (Oracle σ) :=
  let (found, log) := helpers m
  if found.isEmpty then
    ⟨m, o, ⟨[], log ++ [.debug "No decryption helpers found"]⟩, .ok false⟩
  else
    let reply := host.load data o.host
    let o := { o with host := reply.state }
    let journal : Journal := ⟨[], log ++ reply.log⟩
    match reply.value with
    | .error e =>
      let note : Journal :=
        ⟨[{ kind := .warning
            message := "decryption skipped, oracle unavailable: " ++ e.message
            pass := some passName }],
          [.info ("Failed to load assembly, skipping the decryption: " ++ e.message)]⟩
      ⟨m, o, journal ++ note, .ok false⟩
    | .ok image =>
      let p := decryptHelpers host numeric image found ⟨m, ⟨o, journal⟩, 0⟩
      ⟨p.module, p.walk.oracle, p.walk.journal, .ok (0 < p.rewritten)⟩

def pass {σ : Type} (host : Host σ) (data : ByteArray) (numeric : NumericOracle) :
    Pass (Oracle σ) where
  name := passName
  description := "Replaces calls of string and constant decrypt methods with the decrypted literals"
  run := run host data numeric

end Unmask.Decrypt
