import Unmask.Engine
import Unmask.Proofs.Decrypt.Course

/-!
# Hosts that answer alike

A run knows its host by the answers alone. If two hosts, asked the same in related states, answer
the same and are left in related states, then the runs with them leave the same module, journal and
flag, and related states. So what else a state carries along makes no difference to a run.
-/

namespace Unmask

variable {σ τ κ α : Type} {R : σ → τ → Prop}

/-- The reply with something kept beside the state. -/
def Reply.keeping (reply : Reply σ α) (k : κ) : Reply (σ × κ) α :=
  ⟨reply.value, reply.log, (reply.state, k)⟩

/-- Replies that differ in the states only, which are related. -/
structure Reply.Alike (R : σ → τ → Prop) (a : Reply σ α) (b : Reply τ α) : Prop where
  value : a.value = b.value
  log : a.log = b.log
  state : R a.state b.state

/-- From related states the hosts answer alike. -/
structure Host.Alike (R : σ → τ → Prop) (a : Host σ) (b : Host τ) : Prop where
  load (data : ByteArray) {s : σ} {t : τ} (h : R s t) : (a.load data s).Alike R (b.load data t)
  findType (image : ImageId) (name : String) {s : σ} {t : τ} (h : R s t) :
    (a.findType image name s).Alike R (b.findType image name t)
  findMethod (image : ImageId) (typeName name : String) {s : σ} {t : τ} (h : R s t) :
    (a.findMethod image typeName name s).Alike R (b.findMethod image typeName name t)
  invoke (image : ImageId) (typeName name : String) (args : List Value) {s : σ} {t : τ}
      (h : R s t) :
    (a.invoke image typeName name args s).Alike R (b.invoke image typeName name args t)

/-- Runs of a pass that differ in the states only, which are related. -/
structure PassRun.Alike (R : σ → τ → Prop) (a : PassRun σ) (b : PassRun τ) : Prop where
  module : a.module = b.module
  state : R a.state b.state
  journal : a.journal = b.journal
  changed : a.changed = b.changed

/-- Runs of the engine that differ in the states only, which are related. -/
structure Processed.Alike (R : σ → τ → Prop) (a : Processed σ) (b : Processed τ) : Prop where
  module : a.module = b.module
  state : R a.state b.state
  journal : a.journal = b.journal
  error : a.error = b.error

namespace Decrypt

structure Oracle.Alike (R : σ → τ → Prop) (a : Oracle σ) (b : Oracle τ) : Prop where
  host : R a.host b.host
  answers : a.answers = b.answers

structure Walk.Alike (R : σ → τ → Prop) (a : Walk σ) (b : Walk τ) : Prop where
  oracle : a.oracle.Alike R b.oracle
  journal : a.journal = b.journal

structure Progress.Alike (R : σ → τ → Prop) (a : Progress σ) (b : Progress τ) : Prop where
  module : a.module = b.module
  walk : a.walk.Alike R b.walk
  rewritten : a.rewritten = b.rewritten

theorem Progress.Alike.note {p : Progress σ} {q : Progress τ} (h : p.Alike R q)
    (journal : Journal) : (p.note journal).Alike R (q.note journal) :=
  ⟨h.module, ⟨h.walk.oracle, congrArg (· ++ journal) h.walk.journal⟩, h.rewritten⟩

/-- The same news, after which the hosts are in related states. -/
theorem Progress.Alike.heard {p : Progress σ} {q : Progress τ} (h : p.Alike R q)
    {a : Reply σ α} {b : Reply τ α} (hreply : a.Alike R b) :
    (p.heard a).Alike R (q.heard b) := by
  unfold Progress.heard
  rw [hreply.log]
  exact Progress.Alike.note (p := { p with walk.oracle.host := a.state })
    (q := { q with walk.oracle.host := b.state })
    ⟨h.module, ⟨⟨hreply.state, h.walk.oracle.answers⟩, h.walk.journal⟩, h.rewritten⟩ _

/-- The same turn. -/
theorem Progress.Alike.turn {p : Progress σ} {q : Progress τ} (h : p.Alike R q)
    {host : Host σ} {host' : Host τ} {method : DecryptMethod} {live : Live}
    (hsites : ∀ site s t, s.Alike R t →
      (patchSite host method live site s).1 = (patchSite host' method live site t).1 ∧
        (patchSite host method live site s).2.Alike R (patchSite host' method live site t).2) :
    (p.turn host method live).Alike R (q.turn host' method live) := by
  have hedited := patch_simulates hsites p.module h.walk
  simp only [Progress.turn, ← h.module]
  exact ⟨hedited.module, ⟨hedited.state.oracle, by rw [hedited.state.journal, hedited.dropped]⟩,
    by rw [h.rewritten, hedited.count]⟩

variable {host : Host σ} {host' : Host τ} (hhost : host.Alike R host')
include hhost

theorem ask_alike (live : Live) (arg : Int32) {o : Oracle σ} {u : Oracle τ} (h : o.Alike R u) :
    (ask host live arg o).Alike (Oracle.Alike R) (ask host' live arg u) := by
  unfold ask
  rw [h.answers]
  cases u.answers.find? (live.token, arg) with
  | some answer => exact ⟨rfl, rfl, h⟩
  | none =>
    have hreply := hhost.invoke live.image live.typeName live.method [.int32 arg] h.host
    exact ⟨by simp only [hreply.value], hreply.log, hreply.state, by simp only [hreply.value]⟩

theorem patchSite_alike (method : DecryptMethod) (live : Live) (site : Site) {walk : Walk σ}
    {walk' : Walk τ} (h : walk.Alike R walk') :
    let a := patchSite host method live site walk
    let b := patchSite host' method live site walk'
    a.1 = b.1 ∧ a.2.Alike R b.2 := by
  unfold patchSite
  split
  · exact ⟨rfl, h⟩
  cases site.previous?.bind Instruction.constant? with
  | none => exact ⟨rfl, h.oracle, congrArg (· ++ _) h.journal⟩
  | some arg =>
    have hreply := ask_alike hhost live arg h.oracle
    simp only [hreply.value, hreply.log, h.journal]
    cases (ask host' live arg walk'.oracle).value.bind fun v =>
        (method.kind.literal v).mapError Error.message with
    | error reason => exact ⟨rfl, hreply.state, rfl⟩
    | ok load => exact ⟨rfl, hreply.state, rfl⟩

variable (numeric : NumericOracle) (image : ImageId)

theorem decryptMethod_alike (helper : DecryptHelper) (method : DecryptMethod) {p : Progress σ}
    {q : Progress τ} (h : p.Alike R q) :
    (decryptMethod host numeric image helper p method).Alike R
      (decryptMethod host' numeric image helper q method) := by
  unfold decryptMethod
  cases oracleFor? numeric helper method with
  | none => exact h.note _
  | some oracle =>
    have hreply := hhost.findMethod image helper.runtimeName oracle.name h.walk.oracle.host
    have hheard := h.heard hreply
    simp only [hreply.value]
    split
    · exact hheard.note _
    · exact hheard.turn fun site _ _ => patchSite_alike hhost method
        (liveMethod image helper oracle) site

theorem foldl_decryptMethod_alike (helper : DecryptHelper) (l : List DecryptMethod)
    {p : Progress σ} {q : Progress τ} (h : p.Alike R q) :
    (l.foldl (decryptMethod host numeric image helper) p).Alike R
      (l.foldl (decryptMethod host' numeric image helper) q) := by
  induction l generalizing p q with
  | nil => exact h
  | cons method rest ih => exact ih (decryptMethod_alike hhost numeric image helper method h)

theorem decryptHelpers_alike (found : List DecryptHelper) {p : Progress σ} {q : Progress τ}
    (h : p.Alike R q) :
    (decryptHelpers host numeric image found p).Alike R
      (decryptHelpers host' numeric image found q) := by
  induction found generalizing p q with
  | nil => exact h
  | cons helper rest ih =>
    have hreply := hhost.findType image helper.runtimeName h.walk.oracle.host
    have hheard := h.heard hreply
    unfold decryptHelpers
    simp only [hreply.value]
    split
    · exact ih (foldl_decryptMethod_alike hhost numeric image helper _ hheard)
    · exact hheard.note _

omit image

theorem run_alike (data : ByteArray) (m : Module) {o : Oracle σ} {u : Oracle τ}
    (h : o.Alike R u) :
    (run host data numeric m o).Alike (Oracle.Alike R) (run host' data numeric m u) := by
  have hreply := hhost.load data h.host
  unfold run
  simp only
  split
  · exact ⟨rfl, h, rfl, rfl⟩
  rw [hreply.value, hreply.log]
  split
  · exact ⟨rfl, ⟨hreply.state, h.answers⟩, rfl, rfl⟩
  · rename_i image _
    have hdone := decryptHelpers_alike hhost numeric image (helpers m).1
      (p := ⟨m, ⟨{ o with host := (host.load data o.host).state },
        ⟨[], (helpers m).2 ++ (host'.load data u.host).log⟩⟩, 0⟩)
      (q := ⟨m, ⟨{ u with host := (host'.load data u.host).state },
        ⟨[], (helpers m).2 ++ (host'.load data u.host).log⟩⟩, 0⟩)
      ⟨rfl, ⟨⟨hreply.state, h.answers⟩, rfl⟩, rfl⟩
    exact ⟨hdone.module, hdone.walk.oracle, hdone.walk.journal, by rw [hdone.rewritten]⟩

end Decrypt

/-! ## The engine -/

namespace Engine

/-- Engines that differ in their hosts only, which answer alike. -/
structure Alike (R : σ → τ → Prop) (a : Engine σ) (b : Engine τ) : Prop where
  config : a.config = b.config
  resolver : a.resolver = b.resolver
  host : Option.Rel (Host.Alike R) a.host b.host

variable {e : Engine σ} {e' : Engine τ}

theorem runPass_alike {pass : Pass σ} {pass' : Pass τ} {m : Module} {s : σ} {t : τ}
    (h : (pass.run m s).Alike R (pass'.run m t)) (hname : pass.name = pass'.name) :
    (runPass pass m s).Alike R (runPass pass' m t) := by
  refine ⟨h.module, h.state, ?_, h.changed⟩
  simp only [runPass, hname, h.journal, h.changed]

theorem Alike.proxyStage (h : e.Alike R e') (m : Module) {s : σ} {t : τ} (hst : R s t) :
    (e.proxyStage m s).Alike R (e'.proxyStage m t) := by
  unfold Engine.proxyStage
  rw [h.config, h.resolver]
  split
  · exact runPass_alike ⟨rfl, hst, rfl, rfl⟩ rfl
  · exact ⟨rfl, hst, rfl, rfl⟩

theorem Alike.decryptStage (h : e.Alike R e') (data : ByteArray) (m : Module) {s : σ} {t : τ}
    (hst : R s t) : (e.decryptStage data m s).Alike R (e'.decryptStage data m t) := by
  have hhost := h.host
  unfold Engine.decryptStage
  rw [h.config]
  split
  · generalize e.host = host at hhost
    generalize e'.host = host' at hhost
    cases hhost with
    | none => exact ⟨rfl, hst, rfl, rfl⟩
    | @some a b hhost =>
      have hrun : ((Decrypt.pass a data e'.config.numericOracle).run m { host := s }).Alike
          (Decrypt.Oracle.Alike R)
          ((Decrypt.pass b data e'.config.numericOracle).run m { host := t }) :=
        Decrypt.run_alike hhost _ data m ⟨hst, rfl⟩
      have hdone := runPass_alike hrun rfl
      exact ⟨hdone.module, hdone.state.host, hdone.journal, hdone.changed⟩
  · exact ⟨rfl, hst, rfl, rfl⟩

theorem Alike.process (h : e.Alike R e') (data : ByteArray) (m : Module) {s : σ} {t : τ}
    (hst : R s t) : (e.process data m s).Alike R (e'.process data m t) := by
  have hfirst := h.proxyStage m hst
  have hsecond := h.decryptStage data (e.proxyStage m s).module hfirst.state
  unfold Engine.process
  simp only [h.config, hfirst.changed, hfirst.journal]
  split
  · exact ⟨hfirst.module, hfirst.state, rfl, rfl⟩
  · rw [hfirst.module] at hsecond ⊢
    exact ⟨hsecond.module, hsecond.state, by rw [hsecond.journal], by rw [hsecond.changed]⟩

end Engine

end Unmask
