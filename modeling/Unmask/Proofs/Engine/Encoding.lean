import Unmask.Proofs.Decrypt.Encoding
import Unmask.Proofs.Host.Transcript
import Unmask.Proofs.Proxy.Dangling
import Unmask.Proofs.Proxy.Encoding

/-!
# Encodings of constants do not matter

Both passes treat a module as they treat its long form, so they treat modules with one long form
alike: `passes_recoded`.
-/

namespace Unmask

variable {σ : Type}

/-- Runs that differ in the encodings of constants in the modules that they leave only. -/
structure PassRun.Recoded (a b : PassRun σ) : Prop where
  module : a.module.Recoded b.module
  state : b.state = a.state
  journal : b.journal = a.journal
  changed : b.changed = a.changed

/-- If what a pass does to the long form of a module is the long form of what it does to the module,
then it does alike to modules that differ in encodings only. -/
theorem PassRun.recoded_of_longForm (run : Module → PassRun σ)
    (hrun : ∀ m, run m.longForm = { run m with module := (run m).module.longForm })
    {m m' : Module} (h : m.Recoded m') : (run m).Recoded (run m') := by
  have hsame : run m.longForm = run m'.longForm := congrArg run (Module.recoded_iff.1 h)
  rw [hrun, hrun] at hsame
  obtain ⟨hmodule, hstate, hjournal, hchanged⟩ := PassRun.mk.inj hsame
  exact ⟨Module.recoded_iff.2 hmodule, hstate.symm, hjournal.symm, hchanged.symm⟩

theorem Proxy.pass_recoded {resolver : Resolver} (hresolver : IgnoresEncodings resolver)
    (removeTypes : Bool) {m m' : Module} (h : m.Recoded m') (s : σ) :
    ((Proxy.pass resolver removeTypes).run m s).Recoded
      ((Proxy.pass resolver removeTypes).run m' s) := by
  refine PassRun.recoded_of_longForm (fun m => (Proxy.pass resolver removeTypes).run m s)
    (fun m => ?_) h
  simp only [Proxy.pass, Proxy.candidates_longForm, Proxy.processAll_longForm m hresolver]
  rfl

theorem Decrypt.pass_recoded (host : Host σ) (data : ByteArray) (numeric : NumericOracle)
    {m m' : Module} (h : m.Recoded m') (o : Oracle σ) :
    ((Decrypt.pass host data numeric).run m o).Recoded
      ((Decrypt.pass host data numeric).run m' o) :=
  PassRun.recoded_of_longForm (fun m => Decrypt.run host data numeric m o)
    (fun m => Decrypt.run_longForm host numeric data m o) h

/-- What a run of the decrypt pass asks its host, and the answers. -/
def Decrypt.transcript (host : Host σ) (data : ByteArray) (numeric : NumericOracle) (m : Module)
    (o : Oracle σ) : List Exchange :=
  ((Decrypt.pass host.recording data numeric).run m ⟨(o.host, []), o.answers⟩).state.host.2

/-- Modules that differ in the encodings of constants only are treated alike. The proxy pass, with a
resolver that searches for definitions or any other that takes no notice of encodings, leaves the
same flag and journal, and so does the decrypt pass with any host, after the same exchanges with it
and in the same state. The modules that they leave differ in the encodings of constants only. -/
theorem passes_recoded {m m' : Module} (h : m.Recoded m') (s : σ) :
    (∀ references removeTypes,
      ((Proxy.pass (resolveWith references) removeTypes).run m s).Recoded
        ((Proxy.pass (resolveWith references) removeTypes).run m' s)) ∧
    (∀ resolver, IgnoresEncodings resolver → ∀ removeTypes,
      ((Proxy.pass resolver removeTypes).run m s).Recoded
        ((Proxy.pass resolver removeTypes).run m' s)) ∧
    (∀ (host : Host σ) data numeric o,
      ((Decrypt.pass host data numeric).run m o).Recoded
          ((Decrypt.pass host data numeric).run m' o) ∧
        Decrypt.transcript host data numeric m' o = Decrypt.transcript host data numeric m o) := by
  refine ⟨fun references removeTypes => ?_, fun resolver hresolver removeTypes => ?_,
    fun host data numeric o => ⟨Decrypt.pass_recoded host data numeric h o, ?_⟩⟩
  · exact Proxy.pass_recoded (resolveWith_ignoresEncodings references) removeTypes h s
  · exact Proxy.pass_recoded hresolver removeTypes h s
  · have hrecorded := Decrypt.pass_recoded host.recording data numeric h ⟨(o.host, []), o.answers⟩
    exact congrArg (fun o => o.host.2) hrecorded.state

/-- A call of a proxy and a call of a decrypt method, each once after the long form of a constant
and once after the short form. The proxy is resolved and its type removed either way, with the
constant left as it is; the decrypt call is decrypted either way, and the constant gives way to a
`nop`. -/
theorem passes_recoded_samples :
    let long : Instruction := ⟨.ldcI4, .immediate (.int32 8)⟩
    let short : Instruction := ⟨.ldcI4Eight, .none⟩
    let logged (i : Instruction) := Proxy.logModule #[i, .call ⟨0x06000003⟩]
    let encrypted (i : Instruction) := Decrypt.numberModule #[i, .call ⟨0x06000002⟩]
    let resolve (m : Module) := (Proxy.pass (resolveWith []) true).run m ()
    let decrypt (m : Module) :=
      (Decrypt.pass Decrypt.numberHost.host .empty .typeMatched).run m { host := [] }
    (logged long).Recoded (logged short) ∧ logged long ≠ logged short ∧
      (encrypted long).Recoded (encrypted short) ∧ encrypted long ≠ encrypted short ∧
      IgnoresEncodings (resolveWith []) ∧
      (resolve (logged long)).Recoded (resolve (logged short)) ∧
      (resolve (logged short)).changed = .ok true ∧
      (resolve (logged short)).module.types =
        (Proxy.logModule #[short, .call ⟨0x0A000001⟩]).types.tail ∧
      (decrypt (encrypted long)).Recoded (decrypt (encrypted short)) ∧
      (decrypt (encrypted short)).changed = .ok true ∧
      (decrypt (encrypted short)).module =
        Decrypt.numberModule #[.nop, ⟨.ldcI4, .immediate (.int32 9)⟩] := by
  intro long short logged encrypted resolve decrypt
  have hlogged : (logged long).Recoded (logged short) := Module.recoded_iff.2 (by decide +kernel)
  have hencrypted : (encrypted long).Recoded (encrypted short) :=
    Module.recoded_iff.2 (by decide +kernel)
  have hresolver : IgnoresEncodings (resolveWith []) := resolveWith_ignoresEncodings []
  obtain ⟨-, hproxy, -⟩ := passes_recoded hlogged ()
  obtain ⟨-, -, hdecrypt⟩ := passes_recoded hencrypted ([] : List HostCall)
  exact ⟨hlogged, by decide +kernel, hencrypted, by decide +kernel, hresolver,
    hproxy (resolveWith []) hresolver true, by decide +kernel, by decide +kernel,
    (hdecrypt Decrypt.numberHost.host .empty .typeMatched _).1, by decide +kernel,
    by decide +kernel⟩

end Unmask
