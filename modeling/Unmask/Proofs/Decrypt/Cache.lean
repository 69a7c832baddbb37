import Unmask.Proofs.Decrypt.Uncached
import Unmask.Proofs.Host.Deterministic
import Unmask.Proofs.Module.Edit

/-!
# The table of answers changes nothing

With a host whose answers do not depend on what it was asked before, and with decrypt tokens that
mean the same live method wherever they are found, every answer in the table is what the host would
say if it were asked again. So the pass walks in step with the pass without a table, and leaves the
same modules, events and flags. The two may have been given different images of the data.
-/

namespace Unmask.Decrypt

variable {σ : Type} {host : Host σ} {data : ByteArray} {numeric : NumericOracle}
  {image image' : ImageId} {ms : List Module}

/-- The method is a decrypt method of a helper, of that name at run time, of one of the modules. -/
def Found (ms : List Module) (typeName : String) (method : DecryptMethod) : Prop :=
  ∃ m ∈ ms, ∃ helper ∈ (helpers m).1, helper.runtimeName = typeName ∧ method ∈ helper.methods

/-- A decrypt token means the same live method wherever it is found. In a single module it does if
the decrypt tokens are distinct. -/
def Consistent (ms : List Module) : Prop :=
  ∀ m ∈ ms, ∀ m' ∈ ms, ∀ helper ∈ (helpers m).1, ∀ helper' ∈ (helpers m').1,
    ∀ method ∈ helper.methods, ∀ method' ∈ helper'.methods, method.token = method'.token →
      helper.runtimeName = helper'.runtimeName ∧ method.name = method'.name

theorem Consistent.eq_of_found (h : Consistent ms) {typeName typeName' : String}
    {method method' : DecryptMethod} (hfound : Found ms typeName method)
    (hfound' : Found ms typeName' method') (htoken : method.token = method'.token) :
    typeName = typeName' ∧ method.name = method'.name := by
  obtain ⟨m, hm, helper, hhelper, rfl, hmethod⟩ := hfound
  obtain ⟨m', hm', helper', hhelper', rfl, hmethod'⟩ := hfound'
  exact h m hm m' hm' helper hhelper helper' hhelper' method hmethod method' hmethod' htoken

/-- Runs over modules one after the other, keeping the answers. -/
def runAll (host : Host σ) (data : ByteArray) (numeric : NumericOracle) :
    List Module → Oracle σ → List (PassRun (Oracle σ))
  | [], _ => []
  | m :: rest, o =>
    let done := run host data numeric m o
    done :: runAll host data numeric rest done.state

/-- What the host answers when it is asked in the state `s`. -/
def freshAnswer (host : Host σ) (image : ImageId) (typeName name : String) (arg : Int32) (s : σ) :
    Answer :=
  (host.invoke image typeName name [.int32 arg] s).value.mapError Error.message

/-- Every answer in the table is what the host, as long as it serves the image, answers to every
decrypt method with that token. -/
def Sound (host : Host σ) (data : ByteArray) (ms : List Module) (image : ImageId)
    (table : AnswerTable) : Prop :=
  ∀ token arg answer, table.find? (token, arg) = some answer →
    ∀ typeName method, Found ms typeName method → method.token = token →
      ∀ s, host.Serves data image s → answer = freshAnswer host image typeName method.name arg s

/-! ## The table -/

theorem sound_empty (host : Host σ) (data : ByteArray) (ms : List Module) (image : ImageId) :
    Sound host data ms image {} := by
  intro token arg answer h
  cases h

/-- What is sound for one image is sound for all that answer alike. -/
theorem Sound.of_alike {table : AnswerTable} (hsound : Sound host data ms image' table)
    (halike : host.AnswersAlike data image image') {t : σ} (ht : host.Serves data image' t) :
    Sound host data ms image table := by
  intro token arg answer h typeName method hfound htoken s hs
  rw [hsound token arg answer h typeName method hfound htoken t ht, freshAnswer, freshAnswer,
    halike.invoke hs ht]

theorem find?_insert (table : AnswerTable) (key key' : Token × Int32) (answer : Answer) :
    (table.insert key answer).find? key' =
      (table.find? key').or (if key' = key then some answer else none) := by
  unfold AnswerTable.find? AnswerTable.insert
  rw [List.lookup_append]
  congr 1
  by_cases hkey : key' = key
  · simp [hkey]
  · simp [List.lookup_cons, beq_eq_false_iff_ne.2 hkey, hkey]

section Table

variable (hsteady : host.AnswersAlike data image image) (hconsistent : Consistent ms)
  {typeName : String} {method : DecryptMethod} (hfound : Found ms typeName method) (arg : Int32)

include hsteady hconsistent hfound

/-- A fresh answer may be kept: whoever asks with that token and argument later asks the same live
method. -/
theorem Sound.insert {table : AnswerTable} (hsound : Sound host data ms image table) {s : σ}
    (hs : host.Serves data image s) :
    Sound host data ms image
      (table.insert (method.token, arg) (freshAnswer host image typeName method.name arg s)) := by
  intro token arg' answer h typeName' method' hfound' htoken t ht
  rw [find?_insert] at h
  cases hold : table.find? (token, arg') with
  | some old =>
    rw [hold, Option.some_or] at h
    obtain rfl := Option.some.inj h
    exact hsound token arg' old hold typeName' method' hfound' htoken t ht
  | none =>
    rw [hold, Option.none_or] at h
    split at h
    · rename_i hkey
      obtain ⟨rfl, rfl⟩ := Prod.mk.inj hkey
      obtain ⟨rfl, hname⟩ := hconsistent.eq_of_found hfound' hfound htoken
      rw [← Option.some.inj h, freshAnswer, freshAnswer, hname, hsteady.invoke hs ht]
    · cases h

/-- The answer of a sound table is that of the host, and the table stays sound. -/
theorem ask_spec {o : Oracle σ} (hsound : Sound host data ms image o.answers)
    (hs : host.Serves data image o.host) :
    let asked := ask host ⟨image, typeName, method.name, method.token⟩ arg o
    asked.value = freshAnswer host image typeName method.name arg o.host ∧
      Sound host data ms image asked.state.answers ∧ host.Serves data image asked.state.host := by
  unfold ask
  cases hknown : o.answers.find? (method.token, arg) with
  | some answer =>
    exact ⟨hsound method.token arg answer hknown typeName method hfound rfl o.host hs, hsound, hs⟩
  | none =>
    exact ⟨rfl, hsound.insert hsteady hconsistent hfound arg hs, hs.invoke typeName method.name arg⟩

end Table

/-- The walks have seen the same events, the table is sound, and the host serves the image of
either. -/
structure Related (host : Host σ) (data : ByteArray) (ms : List Module) (image image' : ImageId)
    (walk : Walk σ) (ref : Uncached.Walk σ) : Prop where
  events : walk.journal.events = ref.events
  sound : Sound host data ms image walk.oracle.answers
  serves : host.Serves data image walk.oracle.host
  serves' : host.Serves data image' ref.host

theorem Related.note {walk : Walk σ} {ref : Uncached.Walk σ}
    (h : Related host data ms image image' walk ref) {o : Oracle σ}
    (hsound : Sound host data ms image o.answers) (ho : host.Serves data image o.host)
    {journal : Journal} {e : Event} (hjournal : journal.events = walk.journal.events ++ [e]) {t : σ}
    (ht : host.Serves data image' t) :
    Related host data ms image image' ⟨o, journal⟩ (Uncached.Walk.note ⟨t, ref.events⟩ e) :=
  ⟨by rw [hjournal, h.events]; rfl, hsound, ho, ht⟩

/-- The passes have come equally far. -/
structure InStep (host : Host σ) (data : ByteArray) (ms : List Module) (image image' : ImageId)
    (p : Progress σ) (q : Uncached.Progress σ) : Prop where
  module : p.module = q.module
  walk : Related host data ms image image' p.walk q.walk
  rewritten : p.rewritten = q.rewritten

namespace InStep

variable {p : Progress σ} {q : Uncached.Progress σ}

/-- An answer changes the state of the host and the log only. -/
theorem heard (h : InStep host data ms image image' p q) {s t : σ}
    (hs : host.Serves data image s) (ht : host.Serves data image' t) (log : List LogRecord) :
    InStep host data ms image image'
      (Progress.note { p with walk.oracle.host := s } ⟨[], log⟩) (q.heard t) :=
  ⟨h.module,
    ⟨by simp [Progress.note, Uncached.Progress.heard, h.walk.events], h.walk.sound, hs, ht⟩,
    h.rewritten⟩

theorem note (h : InStep host data ms image image' p q) {journal : Journal} {e : Event}
    (hjournal : journal.events = [e]) :
    InStep host data ms image image' (p.note journal) (q.note e) := by
  refine ⟨h.module, ?_, h.rewritten⟩
  exact h.walk.note h.walk.sound h.walk.serves (by rw [Journal.events_append, hjournal])
    h.walk.serves'

end InStep

/-! ## Both passes, level by level -/

section Simulation

variable (halike : host.AnswersAlike data image image') (hconsistent : Consistent ms)

include halike hconsistent

/-- At related walks a site is decrypted alike. -/
theorem patchSite_simulates {typeName : String} {oracle : DecryptMethod}
    (hfound : Found ms typeName oracle) (method : DecryptMethod) (site : Site) {walk : Walk σ}
    {ref : Uncached.Walk σ} (h : Related host data ms image image' walk ref) :
    let a := patchSite host method ⟨image, typeName, oracle.name, oracle.token⟩ site walk
    let b := Uncached.patchSite host method image' typeName oracle.name site ref
    a.1 = b.1 ∧ Related host data ms image image' a.2 b.2 := by
  unfold patchSite Uncached.patchSite
  by_cases hsite : isSite method site.instruction
  · simp only [hsite, Bool.not_true, Bool.false_eq_true, if_false]
    cases site.previous?.bind Instruction.constant? with
    | none => exact ⟨rfl, h.note h.sound h.serves rfl h.serves'⟩
    | some arg =>
      obtain ⟨hvalue, hsound, hserves⟩ :=
        ask_spec (halike.self h.serves') hconsistent hfound arg h.sound h.serves
      have hserves' := h.serves'.invoke typeName oracle.name arg
      simp only [hvalue, freshAnswer, halike.invoke h.serves h.serves' typeName oracle.name arg]
      cases (host.invoke image' typeName oracle.name [.int32 arg] ref.host).value with
      | error e => exact ⟨rfl, h.note hsound hserves (by simp [failedSite]) hserves'⟩
      | ok v =>
        simp only [Except.mapError, Except.bind]
        cases method.kind.literal v with
        | error e => exact ⟨rfl, h.note hsound hserves (by simp [failedSite]) hserves'⟩
        | ok load => exact ⟨rfl, h.note hsound hserves (by simp) hserves'⟩
  · simpa [hsite] using h

theorem decryptMethod_simulates {helper : DecryptHelper}
    (hfound : ∀ method ∈ helper.methods, Found ms helper.runtimeName method)
    {method : DecryptMethod} (hmethod : method ∈ helper.methods) (numeric : NumericOracle)
    {p : Progress σ} {q : Uncached.Progress σ} (h : InStep host data ms image image' p q) :
    InStep host data ms image image' (decryptMethod host numeric image helper p method)
      (Uncached.decryptMethod host numeric image' helper q method) := by
  unfold decryptMethod Uncached.decryptMethod
  cases horacle : oracleFor? numeric helper method with
  | none => exact h.note rfl
  | some oracle =>
    have hlive := hfound oracle (oracleFor?_mem horacle hmethod)
    simp only
    rw [halike.findMethod h.walk.serves h.walk.serves' helper.runtimeName oracle.name]
    have hheard := h.heard (h.walk.serves.findMethod helper.runtimeName oracle.name)
      (h.walk.serves'.findMethod helper.runtimeName oracle.name)
      (host.findMethod image helper.runtimeName oracle.name p.walk.oracle.host).log
    -- the same answer was heard; how it was come by does not matter any more
    generalize Progress.note _ _ = p' at hheard ⊢
    generalize Uncached.Progress.heard _ _ = q' at hheard ⊢
    cases (host.findMethod image' helper.runtimeName oracle.name q.walk.host).value with
    | false => exact hheard.note rfl
    | true =>
      have hedited := patch_simulates
        (fun site _ _ hwalk => patchSite_simulates halike hconsistent hlive method site hwalk)
        q'.module hheard.walk
      simp only [Bool.not_true, Bool.false_eq_true, if_false, if_true, hheard.module]
      exact ⟨hedited.module,
        ⟨by simp [hedited.state.events], hedited.state.sound, hedited.state.serves,
          hedited.state.serves'⟩,
        by rw [hheard.rewritten, hedited.count]⟩

theorem foldl_decryptMethod_simulates {helper : DecryptHelper}
    (hfound : ∀ method ∈ helper.methods, Found ms helper.runtimeName method)
    {l : List DecryptMethod} (hl : ∀ method ∈ l, method ∈ helper.methods) {p : Progress σ}
    {q : Uncached.Progress σ} (h : InStep host data ms image image' p q) :
    InStep host data ms image image' (l.foldl (decryptMethod host numeric image helper) p)
      (l.foldl (Uncached.decryptMethod host numeric image' helper) q) := by
  induction l generalizing p q with
  | nil => exact h
  | cons method rest ih =>
    have hhead := decryptMethod_simulates halike hconsistent hfound (hl method List.mem_cons_self)
      numeric h
    exact ih (fun c hc => hl c (List.mem_cons_of_mem method hc)) hhead

theorem decryptHelpers_simulates (numeric : NumericOracle) {found : List DecryptHelper}
    (hfound : ∀ helper ∈ found, ∀ method ∈ helper.methods, Found ms helper.runtimeName method)
    {p : Progress σ} {q : Uncached.Progress σ} (h : InStep host data ms image image' p q) :
    InStep host data ms image image' (decryptHelpers host numeric image found p)
      (Uncached.decryptHelpers host numeric image' found q) := by
  induction found generalizing p q with
  | nil => exact h
  | cons helper rest ih =>
    unfold decryptHelpers Uncached.decryptHelpers
    simp only
    rw [halike.findType h.walk.serves h.walk.serves' helper.runtimeName]
    have hheard := h.heard (h.walk.serves.findType helper.runtimeName)
      (h.walk.serves'.findType helper.runtimeName)
      (host.findType image helper.runtimeName p.walk.oracle.host).log
    generalize Progress.note _ _ = p' at hheard ⊢
    generalize Uncached.Progress.heard _ _ = q' at hheard ⊢
    cases (host.findType image' helper.runtimeName q.walk.host).value with
    | false => exact hheard.note rfl
    | true =>
      refine ih (fun c hc => hfound c (List.mem_cons_of_mem helper hc)) ?_
      exact foldl_decryptMethod_simulates halike hconsistent (hfound helper List.mem_cons_self)
        (fun _ hc => hc) hheard

end Simulation

theorem found_of_mem {m : Module} (hm : m ∈ ms) : ∀ helper ∈ (helpers m).1,
    ∀ method ∈ helper.methods, Found ms helper.runtimeName method :=
  fun helper hhelper _ hmethod => ⟨m, hm, helper, hhelper, rfl, hmethod⟩

/-- The runs over one module of the sequence leave the same, and the table stays sound. -/
theorem run_simulates (hdet : host.Deterministic) (hconsistent : Consistent ms)
    (numeric : NumericOracle) {m : Module} (hm : m ∈ ms) {o : Oracle σ}
    (hsound : ∀ image, Sound host data ms image o.answers) (t : σ) :
    let a := run host data numeric m o
    let b := Uncached.run host data numeric m t
    (a.module, a.journal.events, a.changed) = (b.module, b.events, .ok b.changed) ∧
      ∀ image, Sound host data ms image a.state.answers := by
  unfold run Uncached.run
  simp only
  by_cases hempty : (helpers m).1.isEmpty
  · simp only [hempty, if_true]
    exact ⟨trivial, hsound⟩
  · simp only [hempty, Bool.false_eq_true, if_false]
    rcases hdet.load_cases data o.host t with ⟨e, hload, hload'⟩ | ⟨image, image', hload, hload'⟩
    · simp only [hload, hload']
      exact ⟨rfl, hsound⟩
    · simp only [hload, hload']
      have hstart : InStep host data ms image image'
          ⟨m, ⟨{ o with host := (host.load data o.host).state },
            ⟨[], (helpers m).2 ++ (host.load data o.host).log⟩⟩, 0⟩
          ⟨m, { host := (host.load data t).state }, 0⟩ :=
        ⟨rfl, ⟨rfl, hsound image, .load hload, .load hload'⟩, rfl⟩
      have hstep := decryptHelpers_simulates (hdet.alike data image image') hconsistent numeric
        (found_of_mem hm) hstart
      refine ⟨by simp only [hstep.module, hstep.walk.events, hstep.rewritten], fun image'' => ?_⟩
      -- another run may be given another image
      exact hstep.walk.sound.of_alike (hdet.alike data image'' image) hstep.walk.serves

theorem runAll_simulates (hdet : host.Deterministic) (hconsistent : Consistent ms)
    (numeric : NumericOracle) {l : List Module} (hl : ∀ m ∈ l, m ∈ ms) {o : Oracle σ}
    (hsound : ∀ image, Sound host data ms image o.answers) (t : σ) :
    ((runAll host data numeric l o).map fun a => (a.module, a.journal.events, a.changed)) =
      (Uncached.runAll host data numeric l t).map fun b => (b.module, b.events, .ok b.changed) := by
  induction l generalizing o t with
  | nil => rfl
  | cons m rest ih =>
    obtain ⟨hsame, hnext⟩ :=
      run_simulates hdet hconsistent numeric (hl m List.mem_cons_self) hsound t
    have hrest := ih (fun c hc => hl c (List.mem_cons_of_mem m hc)) hnext
      (Uncached.run host data numeric m t).host
    simp only [runAll, Uncached.runAll, List.map_cons, hsame, hrest]

/-- With a deterministic host and decrypt tokens that each mean one live method, a fresh pass over
modules one after the other leaves the modules, events and flags of the pass that asks the host at
every site. That pass decrypts a site exactly if the slot before it loads a constant at that moment
and the answer is of the method's kind. -/
theorem runAll_eq_uncached (hdet : host.Deterministic) (data : ByteArray) (numeric : NumericOracle)
    {ms : List Module} (hconsistent : Consistent ms) (s : σ) :
    ((runAll host data numeric ms { host := s }).map
        fun a => (a.module, a.journal.events, a.changed)) =
      (Uncached.runAll host data numeric ms s).map (fun b => (b.module, b.events, .ok b.changed)) ∧
    ∀ method image typeName name site walk,
      ((Uncached.patchSite host method image typeName name site walk).1.isSome ↔
        ∃ v, Uncached.Answered host method image typeName name walk.host site v) ∧
      ∀ v, Uncached.Answered host method image typeName name walk.host site v →
        ∃ load, method.kind.literal v = .ok load ∧
          (Uncached.patchSite host method image typeName name site walk).1 =
            some [⟨site.index - 1, .nop⟩, ⟨site.index, load⟩] :=
  ⟨runAll_simulates hdet hconsistent numeric (fun _ hm => hm) (sound_empty host data ms ·) s,
    fun _ _ _ _ _ _ => ⟨Uncached.patchSite_isSome_iff, fun _ => Uncached.patchSite_answered⟩⟩

/-- The second module gets its answer from the table, though the host has given it another image. -/
theorem runAll_eq_uncached_numberModule :
    let ms := [numberModule #[⟨.ldcI4, .immediate (.int32 7)⟩, .call ⟨0x06000002⟩,
        .call ⟨0x06000002⟩],
      numberModule #[⟨.ldcI4Eight, .none⟩, .call ⟨0x06000002⟩]]
    let runs := runAll numberHost.numbered .empty .typeMatched ms { host := 0 }
    runs.map (·.module) =
        [numberModule #[.nop, .nop, ⟨.ldcI4, .immediate (.int32 9)⟩],
          numberModule #[.nop, ⟨.ldcI4, .immediate (.int32 9)⟩]] ∧
      runs.map (·.state.host) = [1, 2] ∧
      (runs.map fun a => (a.module, a.journal.events, a.changed)) =
        (Uncached.runAll numberHost.numbered .empty .typeMatched ms 0).map
          fun b => (b.module, b.events, .ok b.changed) := by
  intro ms runs
  have hconsistent : Consistent ms := by
    unfold Consistent
    decide +kernel
  refine ⟨by decide +kernel, by decide +kernel, ?_⟩
  exact (runAll_eq_uncached numberHost.numbered_deterministic .empty .typeMatched hconsistent 0).1

end Unmask.Decrypt
