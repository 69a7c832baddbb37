import Unmask.Proofs.Decrypt.Cache
import Unmask.Proofs.Decrypt.Processed
import Unmask.Proofs.Decrypt.Turns
import Unmask.Proofs.Module.Bodies

/-!
# Runs with a steady host

If the answers about an image do not depend on what was asked before, a fresh run takes its turns
over every body, one for each decrypt method that it gets to: `run_module`. The same holds of a run
that looks at other helpers than it has found, as long as their methods are decrypt methods of the
module: `runFor_module`. With a deterministic host the turns are those of any other fresh run.
-/

namespace Unmask.Decrypt

variable {σ : Type} {host : Host σ} {data : ByteArray} {numeric : NumericOracle} {image : ImageId}
  {helper : DecryptHelper} {m : Module} {ts : List Turn}

/-! ## The turns of a run -/

/-- The turn of `method` with the answers of the live form of `oracle`. -/
def liveTurn (host : Host σ) (image : ImageId) (helper : DecryptHelper) (s : σ)
    (method oracle : DecryptMethod) : Turn where
  method := method
  answer? arg := (host.invoke image helper.runtimeName oracle.name [.int32 arg] s).value.toOption

/-- The turn of a decrypt method, if its live method is found. -/
def turnOf? (host : Host σ) (numeric : NumericOracle) (image : ImageId) (helper : DecryptHelper)
    (s : σ) (method : DecryptMethod) : Option Turn :=
  (oracleFor? numeric helper method).bind fun oracle =>
    if (host.findMethod image helper.runtimeName oracle.name s).value then
      some (liveTurn host image helper s method oracle)
    else none

/-- The turns of a run that looks at the helpers given: helper by helper, up to the first whose live
type is missing, and method by method. What the host answers is what it answers right after it has
loaded the image. -/
def turnsFor (host : Host σ) (data : ByteArray) (numeric : NumericOracle)
    (found : List DecryptHelper) (s : σ) : List Turn :=
  let reply := host.load data s
  match reply.value with
  | .error _ => []
  | .ok image =>
    (found.takeWhile fun helper =>
      (host.findType image helper.runtimeName reply.state).value).flatMap fun helper =>
        helper.methods.filterMap (turnOf? host numeric image helper reply.state)

/-- The turns of a run over a module. -/
def turns (host : Host σ) (data : ByteArray) (numeric : NumericOracle) (m : Module) (s : σ) :
    List Turn := turnsFor host data numeric (helpers m).1 s

theorem turnOf?_method {s : σ} {method : DecryptMethod} {t : Turn}
    (h : turnOf? host numeric image helper s method = some t) : t.method = method := by
  obtain ⟨oracle, -, hfound⟩ := Option.bind_eq_some_iff.1 h
  split at hfound
  · rw [← Option.some.inj hfound]
    rfl
  · cases hfound

theorem mem_turns {s : σ} {t : Turn} (h : t ∈ turns host data numeric m s) :
    t.method ∈ methodsFound m := by
  unfold turns turnsFor at h
  simp only at h
  split at h
  · cases h
  · obtain ⟨helper, hhelper, hturn⟩ := List.mem_flatMap.1 h
    obtain ⟨method, hmethod, hlive⟩ := List.mem_filterMap.1 hturn
    exact turnOf?_method hlive ▸
      List.mem_flatMap.2 ⟨helper, (List.takeWhile_sublist _).subset hhelper, hmethod⟩

/-! ## A turn as a patcher -/

namespace Turn

def patcher (t : Turn) : Patcher Unit := fun site _ =>
  ((t.load? site.method.code site.index).map fun load =>
    [⟨site.index - 1, .nop⟩, ⟨site.index, load⟩], ())

theorem patcher_edits (t : Turn) (site : Site) : (t.patcher site ()).1 =
    (t.load? site.method.code site.index).map fun load =>
      [⟨site.index - 1, .nop⟩, ⟨site.index, load⟩] := rfl

theorem foldl_patchSlot (t : Turn) (d : MethodDef) (l : List Nat) (scan : Scan Unit) :
    (l.foldl (patchSlot t.patcher d) scan).body = l.foldl t.offer scan.body := by
  induction l generalizing scan with
  | nil => rfl
  | cons i rest ih =>
    have hslot : (patchSlot t.patcher d scan i).body = t.offer scan.body i := by
      rw [patchSlot_body, patcher_edits, offer]
      show applyPatches (((t.load? scan.body i).map _).getD []) scan.body = _
      cases t.load? scan.body i <;> rfl
    rw [List.foldl_cons, List.foldl_cons, ih, hslot]

/-- A turn over a module is a turn over each body. -/
theorem patch_module (t : Turn) (m : Module) :
    (m.patch t.patcher ()).module = m.mapBodies t.run :=
  Unmask.patch_module (fun d scan => t.foldl_patchSlot d _ scan) m ()

end Turn

theorem patchSite_serves {walk : Uncached.Walk σ} (hwalk : host.Serves data image walk.host)
    (method : DecryptMethod) (typeName name : String) (site : Site) :
    host.Serves data image
      (Uncached.patchSite host method image typeName name site walk).2.host := by
  unfold Uncached.patchSite
  split
  · exact hwalk
  split
  · exact hwalk
  · simp only
    split <;> exact hwalk.invoke typeName name _

/-! ## The turns of a pass -/

/-- The pass without a table has taken the turns over the module, and the host serves the image. -/
structure Taken (host : Host σ) (data : ByteArray) (image : ImageId) (m : Module) (ts : List Turn)
    (p : Uncached.Progress σ) : Prop where
  module : p.module = m.mapBodies (runTurns ts)
  serves : host.Serves data image p.walk.host

section Steady

variable (hsteady : host.AnswersAlike data image image) {s : σ} (hs : host.Serves data image s)
  {p : Uncached.Progress σ}

include hsteady hs

/-- A site is decrypted as the turn says. -/
theorem patchSite_eq (method oracle : DecryptMethod) (site : Site) {walk : Uncached.Walk σ}
    (hwalk : host.Serves data image walk.host) :
    (Uncached.patchSite host method image helper.runtimeName oracle.name site walk).1 =
      ((liveTurn host image helper s method oracle).patcher site ()).1 := by
  obtain ⟨d, i⟩ := site
  rw [Turn.patcher_edits]
  by_cases hcall : d.code[i]? = some (.call method.token)
  · have hsite : isSite method (Site.mk d i).instruction = true :=
      isSite_iff.2 (by simp [Site.instruction, hcall])
    unfold Uncached.patchSite
    simp only [hsite, Bool.not_true, Bool.false_eq_true, if_false]
    cases i with
    | zero => rfl
    | succ n =>
      have hprevious : (Site.mk d (n + 1)).previous? = d.code[n]? := rfl
      have hload : (liveTurn host image helper s method oracle).load? d.code (n + 1) =
          (d.code[n]?.bind Instruction.constant?).bind
            (liveTurn host image helper s method oracle).literal? := if_pos hcall
      rw [hprevious, hload]
      cases d.code[n]?.bind Instruction.constant? with
      | none => rfl
      | some arg =>
        simp only [Option.bind_some, Turn.literal?, liveTurn]
        rw [hsteady.invoke hwalk hs helper.runtimeName oracle.name arg]
        cases (host.invoke image helper.runtimeName oracle.name [.int32 arg] s).value with
        | error e => rfl
        | ok v =>
          cases hliteral : method.kind.literal v <;> simp [Except.bind, Except.toOption, hliteral]
  · have hsite : isSite method (Site.mk d i).instruction = false := by
      refine Bool.eq_false_iff.2 fun hsite => ?_
      have hslot := isSite_iff.1 hsite
      unfold Site.instruction at hslot
      cases hold : d.code[i]? with
      | none => exact nop_ne_call _ (by simpa [hold] using hslot)
      | some old => exact hcall (by simpa [hold] using hslot)
    have hnone : (liveTurn host image helper s method oracle).load? d.code i = none :=
      Turn.load?_eq_none_of_not_call hcall
    simp only [Uncached.patchSite, hsite, Bool.not_false, if_true, hnone, Option.map_none]

/-- The turn of a decrypt method over a module is a turn over each body. -/
theorem patch_taken (method oracle : DecryptMethod) (m : Module) {walk : Uncached.Walk σ}
    (hwalk : host.Serves data image walk.host) :
    let edited := m.patch
      (Uncached.patchSite host method image helper.runtimeName oracle.name) walk
    edited.module = m.mapBodies (liveTurn host image helper s method oracle).run ∧
      host.Serves data image edited.state.host := by
  have hedited := patch_simulates (R := fun walk (_ : Unit) => host.Serves data image walk.host)
    (g := (liveTurn host image helper s method oracle).patcher) (t := ())
    (fun site _ _ hwalk => ⟨patchSite_eq hsteady hs method oracle site hwalk,
      patchSite_serves hwalk method helper.runtimeName oracle.name site⟩) m hwalk
  exact ⟨hedited.module.trans (Turn.patch_module _ m), hedited.state⟩

namespace Taken

/-- A decrypt method takes its turn, if it has one. -/
theorem decryptMethod (h : Taken host data image m ts p) (method : DecryptMethod) :
    Taken host data image m (ts ++ (turnOf? host numeric image helper s method).toList)
      (Uncached.decryptMethod host numeric image helper p method) := by
  unfold Uncached.decryptMethod turnOf?
  cases oracleFor? numeric helper method with
  | none =>
    rw [Option.bind_none, Option.toList_none, List.append_nil]
    exact ⟨h.module, h.serves⟩
  | some oracle =>
    simp only [Option.bind_some]
    rw [hsteady.findMethod h.serves hs helper.runtimeName oracle.name]
    have hheard : host.Serves data image (p.heard
        (host.findMethod image helper.runtimeName oracle.name p.walk.host).state).walk.host :=
      h.serves.findMethod helper.runtimeName oracle.name
    cases (host.findMethod image helper.runtimeName oracle.name s).value with
    | false =>
      simp only [Bool.false_eq_true, if_false, Option.toList_none, List.append_nil]
      exact ⟨h.module, hheard⟩
    | true =>
      obtain ⟨hmodule, hserves⟩ := patch_taken hsteady hs method oracle p.module hheard
      refine ⟨?_, hserves⟩
      calc _ = p.module.mapBodies (liveTurn host image helper s method oracle).run := hmodule
        _ = _ := by
          rw [h.module, Module.mapBodies_mapBodies, if_pos rfl, Option.toList_some]
          exact congrArg m.mapBodies (funext fun body => (runTurns_append ts [_] body).symm)

theorem foldl_decryptMethod (h : Taken host data image m ts p) (l : List DecryptMethod) :
    Taken host data image m (ts ++ l.filterMap (turnOf? host numeric image helper s))
      (l.foldl (Uncached.decryptMethod host numeric image helper) p) := by
  induction l generalizing ts p with
  | nil => rwa [List.filterMap_nil, List.append_nil]
  | cons method rest ih =>
    have happend : (method :: rest).filterMap (turnOf? host numeric image helper s) =
        (turnOf? host numeric image helper s method).toList ++
          rest.filterMap (turnOf? host numeric image helper s) := by
      cases hturn : turnOf? host numeric image helper s method <;> simp [hturn]
    rw [happend, ← List.append_assoc]
    exact ih (h.decryptMethod hsteady hs method)

theorem decryptHelpers (h : Taken host data image m ts p) (found : List DecryptHelper) :
    Taken host data image m (ts ++ (found.takeWhile fun helper =>
        (host.findType image helper.runtimeName s).value).flatMap fun helper =>
          helper.methods.filterMap (turnOf? host numeric image helper s))
      (Uncached.decryptHelpers host numeric image found p) := by
  induction found generalizing ts p with
  | nil => rwa [List.takeWhile_nil, List.flatMap_nil, List.append_nil]
  | cons helper rest ih =>
    unfold Uncached.decryptHelpers
    simp only
    rw [hsteady.findType h.serves hs helper.runtimeName, List.takeWhile_cons]
    have hheard : Taken host data image m ts
        (p.heard (host.findType image helper.runtimeName p.walk.host).state) :=
      ⟨h.module, h.serves.findType helper.runtimeName⟩
    cases (host.findType image helper.runtimeName s).value with
    | false =>
      simp only [Bool.false_eq_true, if_false, List.flatMap_nil, List.append_nil]
      exact ⟨hheard.module, hheard.serves⟩
    | true =>
      simp only [if_true, List.flatMap_cons, ← List.append_assoc]
      exact ih (hheard.foldl_decryptMethod hsteady hs helper.methods)

end Taken

end Steady

/-! ## Runs -/

/-- In a module whose methods have distinct tokens a decrypt token means one live method. -/
theorem consistent_singleton (hmethods : (m.methods.map MethodDef.token).Nodup) :
    Consistent [m] := by
  intro m₁ hm₁ m₂ hm₂ helper hhelper helper' hhelper' method hmethod method' hmethod' htoken
  obtain rfl := List.mem_singleton.1 hm₁
  obtain rfl := List.mem_singleton.1 hm₂
  have hdistinct := methodsFound_nodup hmethods
  have hsame : method = method' := List.inj_on_of_nodup_map hdistinct
    (List.mem_flatMap.2 ⟨helper, hhelper, hmethod⟩)
    (List.mem_flatMap.2 ⟨helper', hhelper', hmethod'⟩) htoken
  rw [methodsFound, List.map_flatMap] at hdistinct
  have hone : helper = helper' := Module.eq_of_nodup_flatMap hdistinct hhelper hhelper'
    (List.mem_map_of_mem hmethod) (htoken ▸ List.mem_map_of_mem hmethod')
  exact ⟨by rw [hone], by rw [hsame]⟩

/-- The pass over a module that looks at the helpers given. -/
def runFor (host : Host σ) (data : ByteArray) (numeric : NumericOracle)
    (found : List DecryptHelper) (log : List LogRecord) (m : Module) (o : Oracle σ) :
    PassRun (Oracle σ) :=
  if found.isEmpty then
    ⟨m, o, ⟨[], log ++ [.debug "No decryption helpers found"]⟩, .ok false⟩
  else
    let reply := host.load data o.host
    let o := { o with host := reply.state }
    let journal : Journal := ⟨[], log ++ reply.log⟩
    match reply.value with
    | .error e =>
      let note : Journal :=
        ⟨[{ kind := .warning
            message := "decryption skipped, oracle unavailable: " ++ e.message
            pass := some passName }],
          [.info ("Failed to load assembly, skipping the decryption: " ++ e.message)]⟩
      ⟨m, o, journal ++ note, .ok false⟩
    | .ok image =>
      let p := decryptHelpers host numeric image found ⟨m, ⟨o, journal⟩, 0⟩
      ⟨p.module, p.walk.oracle, p.walk.journal, .ok (0 < p.rewritten)⟩

/-- The pass looks at the helpers of the module. -/
theorem run_eq_runFor (host : Host σ) (data : ByteArray) (numeric : NumericOracle) (m : Module)
    (o : Oracle σ) :
    run host data numeric m o = runFor host data numeric (helpers m).1 (helpers m).2 m o := rfl

/-- A fresh run that looks at the helpers given, whose methods are decrypt methods of the module,
takes its turns over every body. -/
theorem runFor_module (hsteady : host.Steady data) (numeric : NumericOracle)
    (hmethods : (m.methods.map MethodDef.token).Nodup) {found : List DecryptHelper}
    (hfound : ∀ helper ∈ found, ∀ method ∈ helper.methods, Found [m] helper.runtimeName method)
    (log : List LogRecord) (s : σ) :
    (runFor host data numeric found log m { host := s }).module =
      m.mapBodies (runTurns (turnsFor host data numeric found s)) := by
  unfold runFor turnsFor
  simp only
  split
  · rename_i hempty
    rw [List.isEmpty_iff.1 hempty]
    cases (host.load data s).value <;> exact (Module.mapBodies_id m).symm
  · cases hload : (host.load data s).value with
    | error e => exact (Module.mapBodies_id m).symm
    | ok image =>
      have hserves : host.Serves data image (host.load data s).state := .load hload
      have hstart : InStep host data [m] image image
          ⟨m, ⟨{ host := (host.load data s).state }, ⟨[], log ++ (host.load data s).log⟩⟩, 0⟩
          ⟨m, { host := (host.load data s).state }, 0⟩ :=
        ⟨rfl, ⟨rfl, sound_empty host data [m] image, hserves, hserves⟩, rfl⟩
      have hdone := decryptHelpers_simulates (hsteady image) (consistent_singleton hmethods) numeric
        hfound hstart
      have htaken : Taken host data image m [] ⟨m, { host := (host.load data s).state }, 0⟩ :=
        ⟨(Module.mapBodies_id m).symm, hserves⟩
      exact hdone.module.trans (htaken.decryptHelpers (hsteady image) hserves found).module

/-- A fresh run takes its turns over every body. -/
theorem run_module (hsteady : host.Steady data) (numeric : NumericOracle)
    (hmethods : (m.methods.map MethodDef.token).Nodup) (s : σ) :
    (run host data numeric m { host := s }).module =
      m.mapBodies (runTurns (turns host data numeric m s)) := by
  rw [run_eq_runFor]
  exact runFor_module hsteady numeric hmethods (found_of_mem (List.mem_singleton.2 rfl)) _ s

/-- The turns do not depend on what a deterministic host was asked before. -/
theorem turns_eq (hdet : host.Deterministic) (data : ByteArray) (numeric : NumericOracle)
    (m : Module) (r s : σ) : turns host data numeric m r = turns host data numeric m s := by
  unfold turns turnsFor
  simp only
  rcases hdet.load_cases data r s with ⟨e, hr, hs⟩ | ⟨image, image', hr, hs⟩
  · simp only [hr, hs]
  · have halike := hdet.alike data image image'
    have hturn : ∀ helper, turnOf? host numeric image helper (host.load data r).state =
        turnOf? host numeric image' helper (host.load data s).state := fun helper => by
      unfold turnOf? liveTurn
      simp only [halike.findMethod (.load hr) (.load hs), halike.invoke (.load hr) (.load hs)]
    simp only [hr, hs, halike.findType (.load hr) (.load hs), hturn]

end Unmask.Decrypt
