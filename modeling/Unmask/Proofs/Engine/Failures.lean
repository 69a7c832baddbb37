import Unmask.Host.Scripted
import Unmask.Proofs.Engine.Changes
import Unmask.Proofs.Engine.Simulation

/-!
# Failures do not escalate

A pass answers a failed site, a failed candidate or a missing host by leaving something as it is, so
no run over a module fails. A run from bytes to bytes fails only where its codec does. What the
codec is asked is seen by a codec that records it: the hosts of a run know nothing of the record,
and the record makes no difference to the run.
-/

namespace Unmask

variable {σ κ : Type}

/-! ## The passes -/

theorem Decrypt.run_refused {host : Host σ} {data : ByteArray} {o : Decrypt.Oracle σ} {err : Error}
    (h : (host.load data o.host).value = .error err) (numeric : Decrypt.NumericOracle)
    (m : Module) : (Decrypt.run host data numeric m o).module = m := by
  unfold Decrypt.run
  simp only [h]
  split <;> rfl

namespace Engine

theorem decryptStage_changed (e : Engine σ) (data : ByteArray) (m : Module) (s : σ) :
    ∃ changed, (e.decryptStage data m s).changed = .ok changed := by
  unfold decryptStage
  split
  · split
    · exact ⟨_, Decrypt.run_changed _ data _ m { host := s }⟩
    · exact ⟨false, rfl⟩
  · exact ⟨false, rfl⟩

/-- A run over a module does not fail. -/
theorem process_error (e : Engine σ) (data : ByteArray) (m : Module) (s : σ) :
    (e.process data m s).error = none := by
  obtain ⟨first, hfirst⟩ := e.proxyStage_changed m s
  obtain ⟨second, hsecond⟩ :=
    e.decryptStage_changed data (e.proxyStage m s).module (e.proxyStage m s).state
  simp only [process, hfirst, hsecond]

theorem proxyStage_state (e : Engine σ) (m : Module) (s : σ) : (e.proxyStage m s).state = s := by
  unfold proxyStage
  split <;> rfl

/-- If the host refuses to load the image, the module stays as the proxy stage left it. -/
theorem process_refused {e : Engine σ} {host : Host σ} (hhost : host ∈ e.host) {data : ByteArray}
    {s : σ} {err : Error} (h : (host.load data s).value = .error err) (m : Module) :
    (e.process data m s).module = (e.proxyStage m s).module := by
  rw [(e.process_stages data m s).1, proxyStage_state]
  unfold decryptStage
  rw [Option.mem_def.1 hhost]
  split
  · exact Decrypt.run_refused h e.config.numericOracle (e.proxyStage m s).module
  · rfl

end Engine

/-! ## Recording what a codec is asked -/

/-- A question put to a codec. -/
inductive CodecCall where
  | load (data : ByteArray)
  | write (m : Module)

/-- The codec with a record of the calls made to it. -/
def Codec.recording (codec : Codec σ) : Codec (σ × List CodecCall) where
  load data s := (codec.load data s.1).keeping (s.2 ++ [.load data])
  write m s := (codec.write m s.1).keeping (s.2 ++ [.write m])

/-- The host, which leaves alone what is kept beside its state. -/
def Host.beside (κ : Type) (host : Host σ) : Host (σ × κ) where
  load data s := (host.load data s.1).keeping s.2
  findType image name s := (host.findType image name s.1).keeping s.2
  findMethod image typeName name s := (host.findMethod image typeName name s.1).keeping s.2
  invoke image typeName name args s := (host.invoke image typeName name args s.1).keeping s.2

theorem Host.beside_alike (host : Host σ) (k : κ) :
    (host.beside κ).Alike (fun s t => s = (t, k)) host where
  load _ _ _ h := h ▸ ⟨rfl, rfl, rfl⟩
  findType _ _ _ _ h := h ▸ ⟨rfl, rfl, rfl⟩
  findMethod _ _ _ _ _ h := h ▸ ⟨rfl, rfl, rfl⟩
  invoke _ _ _ _ _ _ h := h ▸ ⟨rfl, rfl, rfl⟩

namespace Engine

def beside (κ : Type) (e : Engine σ) : Engine (σ × κ) where
  config := e.config
  resolver := e.resolver
  host := e.host.map (Host.beside κ)

theorem beside_alike (e : Engine σ) (k : κ) : (e.beside κ).Alike (fun s t => s = (t, k)) e where
  config := rfl
  resolver := rfl
  host := by
    unfold beside
    cases e.host with
    | none => exact .none
    | some host => exact .some (host.beside_alike k)

/-- What is kept beside the state makes no difference to a run and stays as it is. -/
theorem process_beside (e : Engine σ) (data : ByteArray) (m : Module) (s : σ) (k : κ) :
    (e.beside κ).process data m (s, k) =
      { module := (e.process data m s).module
        state := ((e.process data m s).state, k)
        journal := (e.process data m s).journal
        error := (e.process data m s).error } := by
  obtain ⟨hmodule, hstate, hjournal, herror⟩ := (e.beside_alike k).process data m (s := (s, k)) rfl
  rw [← hmodule, ← hstate, ← hjournal, ← herror]

/-- What the codec is asked in a run from bytes to bytes. -/
def codecCalls (e : Engine σ) (codec : Codec σ) (data : ByteArray) (s : σ) : List CodecCall :=
  let loaded := codec.load data s
  match loaded.value with
  | .error _ => [.load data]
  | .ok m => [.load data, .write (e.process data m loaded.state).module]

/-- Recording the calls changes nothing, and the codec is asked to load the image and, if it does,
to write the module that the run has made of it. -/
theorem convert_recording (e : Engine σ) (codec : Codec σ) (data : ByteArray) (s : σ) :
    (e.beside (List CodecCall)).convert codec.recording data (s, []) =
      { state := ((e.convert codec data s).state, e.codecCalls codec data s)
        log := (e.convert codec data s).log
        result := (e.convert codec data s).result } := by
  unfold convert codecCalls
  simp only [Codec.recording, Reply.keeping]
  cases (codec.load data s).value with
  | error err => rfl
  | ok m =>
    simp only [process_beside, process_error]
    rfl

/-- A run from bytes to bytes fails exactly if the codec does, with the error of the codec. -/
theorem convert_error_iff (e : Engine σ) (codec : Codec σ) (data : ByteArray) (s : σ)
    (err : Error) :
    (e.convert codec data s).result = .error err ↔ (codec.load data s).value = .error err ∨
      ∃ m, (codec.load data s).value = .ok m ∧
        let processed := e.process data m (codec.load data s).state
        (codec.write processed.module processed.state).value = .error err := by
  unfold convert
  cases hload : (codec.load data s).value with
  | error err' => simp [hload]
  | ok m =>
    simp only [hload, process_error]
    cases hwrite : (codec.write (e.process data m (codec.load data s).state).module
      (e.process data m (codec.load data s).state).state).value <;> simp [Except.map, hwrite]

/-- Whatever the module, the resolver and the host, both passes and the engine come to an end
without an error, and where the host refuses the image the decrypt pass leaves the module alone. So
a run from bytes to bytes fails exactly if the codec fails to load or to write, and the codec is
asked to write once, and what the run has made of the module, if it has loaded one. -/
theorem failures_contained (e : Engine σ) (codec : Codec σ) (data : ByteArray) (s : σ) :
    (∀ resolver removeTypes m,
      ∃ changed, ((Proxy.pass resolver removeTypes).run m s).changed = .ok changed) ∧
    (∀ (host : Host σ) numeric m o,
      let done := (Decrypt.pass host data numeric).run m o
      (∃ changed, done.changed = .ok changed) ∧
        ∀ err, (host.load data o.host).value = .error err → done.module = m) ∧
    (∀ m, (e.process data m s).error = none ∧
      ∀ host ∈ e.host, ∀ err, (host.load data s).value = .error err →
        (e.process data m s).module = (e.proxyStage m s).module) ∧
    (∀ err, (e.convert codec data s).result = .error err ↔
      (codec.load data s).value = .error err ∨
        ∃ m, (codec.load data s).value = .ok m ∧
          let processed := e.process data m (codec.load data s).state
          (codec.write processed.module processed.state).value = .error err) ∧
    (e.beside (List CodecCall)).convert codec.recording data (s, []) =
      { state := ((e.convert codec data s).state, e.codecCalls codec data s)
        log := (e.convert codec data s).log
        result := (e.convert codec data s).result } := by
  refine ⟨fun resolver removeTypes m => ?_, fun host numeric m o => ⟨?_, fun err h => ?_⟩,
    fun m => ⟨e.process_error data m s, fun host hhost err h => process_refused hhost h m⟩,
    e.convert_error_iff codec data s, e.convert_recording codec data s⟩
  · exact (Proxy.processAll_spec resolver removeTypes (Proxy.candidates m) m).2
  · exact ⟨_, Decrypt.run_changed host data numeric m o⟩
  · exact Decrypt.run_refused h numeric m

/-- A host that refuses every image, and a codec that loads a module with a call for the decrypt
pass but cannot write. -/
theorem failures_contained_refused :
    let host := (HostScript.unavailable "no runtime").host
    let codec : Codec (List HostCall) :=
      { load := fun _ calls => { value := .ok (Decrypt.numberModule
          #[⟨.ldcI4, .immediate (.int32 7)⟩, .call ⟨0x06000002⟩]), state := calls }
        write := fun _ calls => { value := .error (.other "disk full"), state := calls } }
    let e : Engine (List HostCall) := { host := some host }
    let m := Decrypt.numberModule #[⟨.ldcI4, .immediate (.int32 7)⟩, .call ⟨0x06000002⟩]
    (host.load .empty []).value = .error (.oracleUnavailable "no runtime") ∧
      (e.process .empty m []).error = none ∧ (e.process .empty m []).module = m ∧
      (e.convert codec .empty []).result = .error (.other "disk full") ∧
      ((e.beside (List CodecCall)).convert codec.recording .empty ([], [])).state.2 =
        [.load .empty, .write m] := by
  intro host codec e m
  obtain ⟨-, -, hprocess, herror, hrecorded⟩ := e.failures_contained codec .empty []
  have hrefused : (host.load .empty []).value = .error (.oracleUnavailable "no runtime") := rfl
  have hmodule : (e.process .empty m []).module = m := by
    rw [(hprocess m).2 host rfl _ hrefused]
    decide +kernel
  refine ⟨hrefused, (hprocess m).1, hmodule, (herror _).2 (.inr ⟨m, rfl, rfl⟩), ?_⟩
  rw [hrecorded]
  show [CodecCall.load .empty, .write (e.process .empty m []).module] = _
  rw [hmodule]

end Engine

end Unmask
