import Unmask.Proofs.Module.Edit
import Unmask.Decrypt.Pass

/-!
# The course of a run

A run goes from one answer of its host to the next. Between two look-ups a decrypt method may have
its turn, in which its sites are offered. The equations here say so, one for each function that
makes up a run.
-/

namespace Unmask.Decrypt

variable {σ α : Type}

/-- The progress once an answer of the host is in. -/
def Progress.heard (p : Progress σ) (reply : Reply σ α) : Progress σ :=
  Progress.note { p with walk.oracle.host := reply.state } ⟨[], reply.log⟩

/-- The progress once a decrypt method whose live form was found has had its turn. -/
def Progress.turn (host : Host σ) (method : DecryptMethod) (live : Live) (p : Progress σ) :
    Progress σ :=
  let edited := p.module.patch (patchSite host method live) p.walk
  { module := edited.module
    walk := { edited.state with journal := edited.state.journal ++ ⟨[], edited.dropped⟩ }
    rewritten := p.rewritten + edited.count }

@[simp] theorem Progress.heard_module (p : Progress σ) (reply : Reply σ α) :
    (p.heard reply).module = p.module := rfl

@[simp] theorem Progress.note_oracle (p : Progress σ) (journal : Journal) :
    (p.note journal).walk.oracle = p.walk.oracle := rfl

@[simp] theorem Progress.turn_oracle (host : Host σ) (method : DecryptMethod) (live : Live)
    (p : Progress σ) : (p.turn host method live).walk.oracle =
      (p.module.patch (patchSite host method live) p.walk).state.oracle := rfl

/-- The look-up of the live method `oracle` of a helper. -/
def methodReply (host : Host σ) (image : ImageId) (helper : DecryptHelper)
    (oracle : DecryptMethod) (p : Progress σ) : Reply σ Bool :=
  host.findMethod image helper.runtimeName oracle.name p.walk.oracle.host

/-- The look-up of the live type of a helper. -/
def typeReply (host : Host σ) (image : ImageId) (helper : DecryptHelper) (p : Progress σ) :
    Reply σ Bool :=
  host.findType image helper.runtimeName p.walk.oracle.host

/-- The live form of a decrypt method. -/
def liveMethod (image : ImageId) (helper : DecryptHelper) (oracle : DecryptMethod) : Live :=
  ⟨image, helper.runtimeName, oracle.name, oracle.token⟩

variable (host : Host σ) (numeric : NumericOracle) (image : ImageId) (helper : DecryptHelper)
  (p : Progress σ)

/-- A decrypt method that nothing answers for is noted. Else its live method is looked up, and it
has its turn if that is found. -/
theorem decryptMethod_cases (method : DecryptMethod) :
    (oracleFor? numeric helper method = none ∧
      ∃ note, decryptMethod host numeric image helper p method = p.note note) ∨
    ∃ oracle, oracleFor? numeric helper method = some oracle ∧
      let reply := methodReply host image helper oracle p
      ((reply.value = false ∧
          ∃ note, decryptMethod host numeric image helper p method = (p.heard reply).note note) ∨
        (reply.value = true ∧ decryptMethod host numeric image helper p method =
          (p.heard reply).turn host method (liveMethod image helper oracle))) := by
  unfold decryptMethod
  cases oracleFor? numeric helper method with
  | none => exact .inl ⟨rfl, _, rfl⟩
  | some oracle =>
    refine .inr ⟨oracle, rfl, ?_⟩
    simp only [methodReply]
    cases (host.findMethod image helper.runtimeName oracle.name p.walk.oracle.host).value with
    | false => exact .inl ⟨rfl, _, rfl⟩
    | true => exact .inr ⟨rfl, rfl⟩

/-- A helper whose live type is missing is noted and ends the run. -/
theorem decryptHelpers_cons (rest : List DecryptHelper) :
    let reply := typeReply host image helper p
    (reply.value = false ∧ ∃ note, decryptHelpers host numeric image (helper :: rest) p =
        (p.heard reply).note note) ∨
      (reply.value = true ∧ decryptHelpers host numeric image (helper :: rest) p =
        decryptHelpers host numeric image rest
          (helper.methods.foldl (decryptMethod host numeric image helper) (p.heard reply))) := by
  simp only [decryptHelpers, typeReply]
  cases (host.findType image helper.runtimeName p.walk.oracle.host).value with
  | false => exact .inl ⟨rfl, _, rfl⟩
  | true => exact .inr ⟨rfl, rfl⟩

/-- The state from which a run works through the helpers of a module whose image is loaded. -/
def Progress.start (data : ByteArray) (m : Module) (o : Oracle σ) : Progress σ :=
  let reply := host.load data o.host
  ⟨m, ⟨{ o with host := reply.state }, ⟨[], (helpers m).2 ++ reply.log⟩⟩, 0⟩

/-- A run asks for the image if there is a helper, and works through the helpers if it gets it. -/
theorem run_cases (data : ByteArray) (m : Module) (o : Oracle σ) :
    let done := run host data numeric m o
    let reply := host.load data o.host
    ((helpers m).1 = [] ∧ done.module = m ∧ done.state = o) ∨
    ((helpers m).1 ≠ [] ∧
      ((∃ e, reply.value = .error e ∧ done.module = m ∧
          done.state = { o with host := reply.state }) ∨
        ∃ image, reply.value = .ok image ∧
          let p := decryptHelpers host numeric image (helpers m).1 (Progress.start host data m o)
          done.module = p.module ∧ done.state = p.walk.oracle)) := by
  unfold run Progress.start
  simp only
  split
  · rename_i hnone
    exact .inl ⟨List.isEmpty_iff.1 hnone, rfl, rfl⟩
  · rename_i hsome
    refine .inr ⟨fun hnil => hsome (List.isEmpty_iff.2 hnil), ?_⟩
    cases (host.load data o.host).value with
    | error e => exact .inl ⟨e, rfl, rfl, rfl⟩
    | ok image => exact .inr ⟨image, rfl, rfl, rfl⟩

end Unmask.Decrypt
