import Mathlib.Data.List.Nodup
import Unmask.Proofs.Decrypt.Cache
import Unmask.Proofs.Decrypt.Course
import Unmask.Proofs.Host.Transcript

/-!
# No question is asked twice

A site with a constant consults the live method that answers for it: it gets the answer from the
table, or else from the host, whose answer is kept. The consultations of all sites of all runs of a
pass are listed here beside the runs. Those that went to the host are all the calls made of it, no
two of them with the same live method and argument, and each consultation got the answer that is in
the table at the end: `asked_once`.
-/

namespace Unmask

/-- A call of a live method. -/
def Exchange.isInvoke : Exchange → Bool
  | .invoke _ _ _ _ _ => true
  | _ => false

namespace Decrypt

variable {σ : Type}

/-- The edits of a site that gets `answer`. -/
def editsFor (method : DecryptMethod) (site : Site) (answer : Answer) : Option (List Patch) :=
  match answer.bind fun v => (method.kind.literal v).mapError Error.message with
  | .error _ => none
  | .ok load => some [⟨site.index - 1, .nop⟩, ⟨site.index, load⟩]

/-- What became of a site with a constant. -/
structure Consultation where
  method : DecryptMethod
  site : Site
  live : Live
  arg : Int32
  answer : Answer
  /-- What the host was asked for it. -/
  asked : List Exchange
  edits : Option (List Patch)

namespace Consultation

def key (c : Consultation) : Token × Int32 := (c.live.token, c.arg)

/-- The host was asked at most for a call with the argument, and then gave the answer. The answer
alone decides what is edited. -/
structure Faithful (c : Consultation) : Prop where
  asked : c.asked = [] ∨ ∃ result, c.answer = result.mapError Error.message ∧
    c.asked = [.invoke c.live.image c.live.typeName c.live.method [.int32 c.arg] result]
  edits : c.edits = editsFor c.method c.site c.answer

/-- The host gave the answer of `c` when it was called with the argument of `c`, for this or for
another consultation of the same live method. -/
def Answered (cs : List Consultation) (c : Consultation) : Prop :=
  ∃ c' ∈ cs, c'.key = c.key ∧ ∃ result, c.answer = result.mapError Error.message ∧
    c'.asked = [.invoke c'.live.image c'.live.typeName c'.live.method [.int32 c.arg] result]

end Consultation

/-! ## The consultations of a pass -/

section Trace

variable (host : Host σ) (numeric : NumericOracle) (image : ImageId)

def siteConsultation? (method : DecryptMethod) (live : Live) (site : Site)
    (walk : Walk (σ × List Exchange)) : Option Consultation :=
  if isSite method site.instruction then
    (site.previous?.bind Instruction.constant?).map fun arg =>
      let reply := ask host.recording live arg walk.oracle
      { method, site, live, arg
        answer := reply.value
        asked := reply.state.host.2.drop walk.oracle.host.2.length
        edits := (patchSite host.recording method live site walk).1 }
  else none

/-- The consultations in the turn of a decrypt method. -/
def turnConsultations (method : DecryptMethod) (live : Live)
    (p : Progress (σ × List Exchange)) : List Consultation :=
  (p.module.patch ((patchSite host.recording method live).observed
    (siteConsultation? host method live)) (p.walk, [])).state.2

def methodConsultations (helper : DecryptHelper) (p : Progress (σ × List Exchange))
    (method : DecryptMethod) : List Consultation :=
  match oracleFor? numeric helper method with
  | none => []
  | some oracle =>
    let reply := methodReply host.recording image helper oracle p
    if reply.value then
      turnConsultations host method (liveMethod image helper oracle) (p.heard reply)
    else []

def methodsConsultations (helper : DecryptHelper) :
    List DecryptMethod → Progress (σ × List Exchange) → List Consultation
  | [], _ => []
  | method :: rest, p =>
    methodConsultations host numeric image helper p method ++
      methodsConsultations helper rest (decryptMethod host.recording numeric image helper p method)

def helpersConsultations :
    List DecryptHelper → Progress (σ × List Exchange) → List Consultation
  | [], _ => []
  | helper :: rest, p =>
    let reply := typeReply host.recording image helper p
    if reply.value then
      methodsConsultations host numeric image helper helper.methods (p.heard reply) ++
        helpersConsultations rest
          (helper.methods.foldl (decryptMethod host.recording numeric image helper) (p.heard reply))
    else []

def runConsultations (data : ByteArray) (m : Module) (o : Oracle (σ × List Exchange)) :
    List Consultation :=
  match (host.recording.load data o.host).value with
  | .error _ => []
  | .ok image =>
    helpersConsultations host numeric image (helpers m).1 (Progress.start host.recording data m o)

/-- The consultations of runs over modules one after the other. -/
def consultations (data : ByteArray) :
    List Module → Oracle (σ × List Exchange) → List Consultation
  | [], _ => []
  | m :: rest, o =>
    runConsultations host numeric data m o ++
      consultations data rest (run host.recording data numeric m o).state

end Trace

/-- The oracle after runs over modules one after the other. -/
def oracleAfter (host : Host σ) (data : ByteArray) (numeric : NumericOracle) (ms : List Module)
    (o : Oracle σ) : Oracle σ :=
  ms.foldl (fun o m => (run host data numeric m o).state) o

/-! ## The table keeps up -/

/-- The table and the transcript tell of the same consultations. -/
structure Kept (cs : List Consultation) (o : Oracle (σ × List Exchange)) : Prop where
  invoked : o.host.2.filter Exchange.isInvoke = cs.flatMap Consultation.asked
  entries : o.answers.entries.map (·.1) = cs.flatMap fun c => c.asked.map fun _ => c.key
  nodup : (o.answers.entries.map (·.1)).Nodup
  recalled : ∀ c ∈ cs, o.answers.find? c.key = some c.answer
  faithful : ∀ c ∈ cs, c.Faithful

theorem kept_start (s : σ) : Kept [] { host := (s, []) } :=
  ⟨rfl, rfl, List.nodup_nil, List.forall_mem_nil _, List.forall_mem_nil _⟩

/-- Other questions do not matter. -/
theorem Kept.heard {cs : List Consultation} {o : Oracle (σ × List Exchange)} (h : Kept cs o) (s : σ)
    {x : Exchange} (hx : x.isInvoke = false) : Kept cs { o with host := (s, o.host.2 ++ [x]) } :=
  { h with invoked := by simp [h.invoked, hx] }

theorem AnswerTable.find?_eq_none {table : AnswerTable} {key : Token × Int32} :
    table.find? key = none ↔ key ∉ table.entries.map (·.1) := by
  unfold AnswerTable.find?
  rw [List.lookup_eq_none_iff]
  constructor
  · intro h hmem
    obtain ⟨entry, hentry, rfl⟩ := List.mem_map.1 hmem
    exact absurd (h entry hentry) (by simp)
  · intro h entry hentry
    exact bne_iff_ne.2 fun heq => h (List.mem_map.2 ⟨entry, hentry, heq.symm⟩)

/-- The table was asked, and the host if need be. -/
theorem ask_faithful (host : Host σ) (method : DecryptMethod) (site : Site) (live : Live)
    (arg : Int32) (o : Oracle (σ × List Exchange)) :
    let reply := Decrypt.ask host.recording live arg o
    Consultation.Faithful
      { method, site, live, arg
        answer := reply.value
        asked := reply.state.host.2.drop o.host.2.length
        edits := editsFor method site reply.value } := by
  unfold Decrypt.ask
  cases o.answers.find? (live.token, arg) with
  | some answer => exact ⟨.inl List.drop_length, rfl⟩
  | none => exact ⟨.inr ⟨_, rfl, List.drop_left⟩, rfl⟩

/-- Asking the table, and the host if need be, is one more consultation. -/
theorem Kept.ask {host : Host σ} {cs : List Consultation} {o : Oracle (σ × List Exchange)}
    (h : Kept cs o) (method : DecryptMethod) (site : Site) (live : Live) (arg : Int32) :
    let reply := Decrypt.ask host.recording live arg o
    Kept (cs ++ [{ method, site, live, arg
                   answer := reply.value
                   asked := reply.state.host.2.drop o.host.2.length
                   edits := editsFor method site reply.value }]) reply.state := by
  have hfaithful := ask_faithful host method site live arg o
  unfold Decrypt.ask at hfaithful ⊢
  cases hknown : o.answers.find? (live.token, arg) with
  | some answer =>
    simp only [hknown] at hfaithful
    refine ⟨?_, ?_, h.nodup, ?_, ?_⟩
    · simp [h.invoked]
    · simp [h.entries]
    · exact List.forall_mem_append.2 ⟨h.recalled, List.forall_mem_singleton.2 hknown⟩
    · exact List.forall_mem_append.2 ⟨h.faithful, List.forall_mem_singleton.2 hfaithful⟩
  | none =>
    have hasked (x : Exchange) : (o.host.2 ++ [x]).drop o.host.2.length = [x] := List.drop_left
    simp only [hknown, Host.recording, Reply.keeping, hasked] at hfaithful ⊢
    refine ⟨?_, ?_, ?_, ?_, ?_⟩
    · simp [h.invoked, Exchange.isInvoke]
    · simp [AnswerTable.insert, h.entries, Consultation.key]
    · rw [AnswerTable.insert, List.map_append]
      exact List.Nodup.append h.nodup (List.nodup_singleton _)
        (List.disjoint_singleton.2 (AnswerTable.find?_eq_none.1 hknown))
    · refine List.forall_mem_append.2 ⟨fun c hc => ?_, List.forall_mem_singleton.2 ?_⟩
      · rw [find?_insert, h.recalled c hc, Option.some_or]
      · rw [find?_insert]
        simp [Consultation.key, hknown]
    · exact List.forall_mem_append.2 ⟨h.faithful, List.forall_mem_singleton.2 hfaithful⟩

/-! ## Level by level -/

variable (host : Host σ) (numeric : NumericOracle) (image : ImageId)

/-- A site with a constant takes its edits and the next state of the oracle from the answer. -/
theorem patchSite_consults {τ : Type} (host : Host τ) (method : DecryptMethod) (live : Live)
    {site : Site} (walk : Walk τ) (hsite : isSite method site.instruction) {arg : Int32}
    (harg : site.previous?.bind Instruction.constant? = some arg) :
    let reply := ask host live arg walk.oracle
    (patchSite host method live site walk).1 = editsFor method site reply.value ∧
      (patchSite host method live site walk).2.oracle = reply.state := by
  unfold patchSite editsFor
  simp only [hsite, Bool.not_true, Bool.false_eq_true, if_false, harg]
  cases (ask host live arg walk.oracle).value.bind fun v =>
      (method.kind.literal v).mapError Error.message with
  | error reason => exact ⟨rfl, rfl⟩
  | ok load => exact ⟨rfl, rfl⟩

theorem patchSite_kept (method : DecryptMethod) (live : Live) (site : Site)
    {walk : Walk (σ × List Exchange)} {cs : List Consultation} (h : Kept cs walk.oracle) :
    Kept (cs ++ (siteConsultation? host method live site walk).toList)
      (patchSite host.recording method live site walk).2.oracle := by
  unfold siteConsultation?
  by_cases hsite : isSite method site.instruction
  · rw [if_pos hsite]
    cases harg : site.previous?.bind Instruction.constant? with
    | none =>
      have hstate : (patchSite host.recording method live site walk).2.oracle = walk.oracle := by
        simp [patchSite, hsite, harg]
      rw [hstate]
      simpa using h
    | some arg =>
      obtain ⟨hedits, hstate⟩ := patchSite_consults host.recording method live walk hsite harg
      simp only [Option.map_some, Option.toList_some, hedits, hstate]
      exact h.ask method site live arg
  · have hstate : (patchSite host.recording method live site walk).2 = walk := by
      simp [patchSite, hsite]
    rw [if_neg hsite, hstate]
    simpa using h

theorem turn_kept (method : DecryptMethod) (live : Live) {p : Progress (σ × List Exchange)}
    {cs : List Consultation} (h : Kept cs p.walk.oracle) :
    Kept (cs ++ turnConsultations host method live p)
      (p.turn host.recording method live).walk.oracle := by
  have hwatched := patch_observed (patchSite host.recording method live)
    (siteConsultation? host method live) p.module p.walk []
  rw [Progress.turn_oracle, ← hwatched.state]
  let Watched (w : Walk (σ × List Exchange) × List Consultation) : Prop :=
    Kept (cs ++ w.2) w.1.oracle
  refine patch_keeps (P := Watched) (fun site w hw => ?_) p.module (by simpa [Watched] using h)
  have hnext := patchSite_kept host method live site hw
  rwa [List.append_assoc] at hnext

theorem decryptMethod_kept (helper : DecryptHelper) (method : DecryptMethod)
    {p : Progress (σ × List Exchange)} {cs : List Consultation} (h : Kept cs p.walk.oracle) :
    Kept (cs ++ methodConsultations host numeric image helper p method)
      (decryptMethod host.recording numeric image helper p method).walk.oracle := by
  unfold methodConsultations
  rcases decryptMethod_cases host.recording numeric image helper p method with
    ⟨hnone, note, hdone⟩ | ⟨oracle, horacle, ⟨hmissing, note, hdone⟩ | ⟨hfound, hdone⟩⟩
  · rw [hnone, hdone]
    simpa using h
  · simp only [horacle, hmissing, hdone, Bool.false_eq_true, if_false, List.append_nil]
    exact h.heard _ rfl
  · simp only [horacle, hfound, hdone, if_true]
    exact turn_kept host method _ (h.heard _ rfl)

theorem foldl_decryptMethod_kept (helper : DecryptHelper) (l : List DecryptMethod)
    {p : Progress (σ × List Exchange)} {cs : List Consultation} (h : Kept cs p.walk.oracle) :
    Kept (cs ++ methodsConsultations host numeric image helper l p)
      (l.foldl (decryptMethod host.recording numeric image helper) p).walk.oracle := by
  induction l generalizing p cs with
  | nil => exact (List.append_nil cs).symm ▸ h
  | cons method rest ih =>
    have hrest := ih (decryptMethod_kept host numeric image helper method h)
    rwa [List.append_assoc] at hrest

theorem decryptHelpers_kept (found : List DecryptHelper) {p : Progress (σ × List Exchange)}
    {cs : List Consultation} (h : Kept cs p.walk.oracle) :
    Kept (cs ++ helpersConsultations host numeric image found p)
      (decryptHelpers host.recording numeric image found p).walk.oracle := by
  induction found generalizing p cs with
  | nil => exact (List.append_nil cs).symm ▸ h
  | cons helper rest ih =>
    unfold helpersConsultations
    rcases decryptHelpers_cons host.recording numeric image helper p rest with
      ⟨hmissing, note, hdone⟩ | ⟨hfound, hdone⟩
    · simp only [hmissing, hdone, Bool.false_eq_true, if_false, List.append_nil]
      exact h.heard _ rfl
    · simp only [hfound, hdone, if_true]
      have hrest := ih (foldl_decryptMethod_kept host numeric image helper helper.methods
        (p := p.heard (typeReply host.recording image helper p)) (h.heard _ rfl))
      rwa [List.append_assoc] at hrest

omit image in
theorem run_kept (data : ByteArray) (m : Module) {o : Oracle (σ × List Exchange)}
    {cs : List Consultation} (h : Kept cs o) :
    Kept (cs ++ runConsultations host numeric data m o)
      (run host.recording data numeric m o).state := by
  unfold runConsultations
  rcases run_cases host.recording numeric data m o with
    ⟨hnone, -, hstate⟩ | ⟨-, ⟨e, he, -, hstate⟩ | ⟨image, hok, -, hstate⟩⟩
  · rw [hstate, hnone]
    cases (host.recording.load data o.host).value <;> simpa [helpersConsultations] using h
  · have he : (host.recording.load data o.host).value = .error e := he
    simp only [he, hstate, List.append_nil]
    exact h.heard _ rfl
  · simp only [hok, hstate]
    exact decryptHelpers_kept host numeric image _ (h.heard _ rfl)

omit image in
theorem consultations_kept (data : ByteArray) (ms : List Module) {o : Oracle (σ × List Exchange)}
    {cs : List Consultation} (h : Kept cs o) :
    Kept (cs ++ consultations host numeric data ms o)
      (oracleAfter host.recording data numeric ms o) := by
  induction ms generalizing o cs with
  | nil => exact (List.append_nil cs).symm ▸ h
  | cons m rest ih =>
    have hrest := ih (run_kept host numeric data m h)
    rwa [List.append_assoc] at hrest

/-! ## At most once -/

/-- Every answer is one that the host gave. -/
theorem Kept.answered {c : Consultation} {cs : List Consultation} {o : Oracle (σ × List Exchange)}
    (h : Kept cs o) (hc : c ∈ cs) : c.Answered cs := by
  have hentry : c.key ∈ o.answers.entries.map (·.1) := by
    by_contra hmissing
    have hnone := AnswerTable.find?_eq_none.2 hmissing
    rw [h.recalled c hc] at hnone
    cases hnone
  rw [h.entries] at hentry
  obtain ⟨c', hc', hkey⟩ := List.mem_flatMap.1 hentry
  obtain ⟨x, hx, hsame⟩ := List.mem_map.1 hkey
  have hanswer : c'.answer = c.answer := by
    have hfound := h.recalled c' hc'
    rw [hsame, h.recalled c hc] at hfound
    exact (Option.some.inj hfound).symm
  rcases (h.faithful c' hc').asked with hnone | ⟨result, hresult, hasked⟩
  · rw [hnone] at hx
    cases hx
  · have harg : c'.arg = c.arg := congrArg Prod.snd hsame
    exact ⟨c', hc', hsame, result, hanswer ▸ hresult, harg ▸ hasked⟩

/-- What the host was asked for the sites that consult a live method with an argument. -/
def askedFor (cs : List Consultation) (key : Token × Int32) : List Exchange :=
  (cs.filter fun c => c.key = key).flatMap Consultation.asked

theorem length_askedFor (cs : List Consultation) (key : Token × Int32) :
    (askedFor cs key).length =
      (cs.flatMap fun c => c.asked.map fun _ => c.key).count key := by
  induction cs with
  | nil => rfl
  | cons c rest ih =>
    unfold askedFor at *
    by_cases hkey : c.key = key
    · simp [hkey, ih]
    · simp [hkey, ih, List.count_replicate]

theorem Kept.length_askedFor_le {cs : List Consultation} {o : Oracle (σ × List Exchange)}
    (h : Kept cs o) (key : Token × Int32) : (askedFor cs key).length ≤ 1 := by
  rw [length_askedFor, ← h.entries]
  exact List.nodup_iff_count_le_one.1 h.nodup key

theorem Kept.size_eq {cs : List Consultation} {o : Oracle (σ × List Exchange)} (h : Kept cs o) :
    o.answers.size = (o.host.2.filter Exchange.isInvoke).length := by
  have hsize := congrArg List.length h.entries
  rw [List.length_map] at hsize
  rw [AnswerTable.size, hsize, h.invoked]
  simp [List.length_flatMap]

theorem runAll_recording (data : ByteArray) (ms : List Module) {o : Oracle (σ × List Exchange)}
    {u : Oracle σ} (h : o.Alike (fun s t => s.1 = t) u) :
    List.Forall₂ (PassRun.Alike (Oracle.Alike fun s t => s.1 = t))
      (runAll host.recording data numeric ms o) (runAll host data numeric ms u) := by
  induction ms generalizing o u with
  | nil => exact .nil
  | cons m rest ih =>
    have hrun := run_alike host.recording_alike numeric data m h
    exact .cons hrun (ih hrun.state)

/-- Whatever the host, and whichever modules a fresh pass is run over, one after the other: no live
method is called twice with the same argument. The calls made of the host are those of the
consultations, one for each entry of the table. Every consultation got the answer that the table
has at the end, so all that share live method and argument got the same, and the answer alone
decides what becomes of the site. Recording the calls makes no difference to the runs. -/
theorem asked_once (host : Host σ) (data : ByteArray) (numeric : NumericOracle) (ms : List Module)
    (s : σ) :
    let start : Oracle (σ × List Exchange) := { host := (s, []) }
    let cs := consultations host numeric data ms start
    let last := oracleAfter host.recording data numeric ms start
    (∀ key, (askedFor cs key).length ≤ 1) ∧
    last.host.2.filter Exchange.isInvoke = cs.flatMap Consultation.asked ∧
    last.answers.size = (last.host.2.filter Exchange.isInvoke).length ∧
    (∀ c ∈ cs, c.Faithful ∧ last.answers.find? c.key = some c.answer) ∧
    List.Forall₂ (PassRun.Alike (Oracle.Alike fun s t => s.1 = t))
      (runAll host.recording data numeric ms start) (runAll host data numeric ms { host := s }) := by
  intro start cs last
  have hkept : Kept cs last := consultations_kept host numeric data ms (kept_start s)
  exact ⟨hkept.length_askedFor_le, hkept.invoked, hkept.size_eq,
    fun c hc => ⟨hkept.faithful c hc, hkept.recalled c hc⟩,
    runAll_recording host numeric data ms ⟨rfl, rfl⟩⟩

/-- Two calls of the host for three sites: the site of the second module gets the answer that the
chained site of the first one got. -/
theorem asked_once_numberModule :
    let ms := [numberModule #[⟨.ldcI4, .immediate (.int32 7)⟩, .call ⟨0x06000002⟩,
        .call ⟨0x06000002⟩],
      numberModule #[⟨.ldcI4Eight, .none⟩, .call ⟨0x06000002⟩]]
    let start : Oracle (List HostCall × List Exchange) := { host := ([], []) }
    let cs := consultations numberHost.host .typeMatched .empty ms start
    let last := oracleAfter numberHost.host.recording .empty .typeMatched ms start
    cs.map Consultation.key = [(⟨0x06000002⟩, 7), (⟨0x06000002⟩, 8), (⟨0x06000002⟩, 8)] ∧
      last.answers.size = 2 ∧
      ∃ c ∈ cs, c.asked = [] ∧ c.Faithful ∧ last.answers.find? c.key = some c.answer := by
  intro ms start cs last
  obtain ⟨-, -, -, hrecalled, -⟩ := asked_once numberHost.host .empty .typeMatched ms []
  have hthird : (cs[2]?.map fun c => c.asked.isEmpty) = some true := by decide +kernel
  obtain ⟨c, hc, hasked⟩ := Option.map_eq_some_iff.1 hthird
  have hmem : c ∈ cs := List.mem_of_getElem? hc
  exact ⟨by decide +kernel, by decide +kernel, c, hmem, List.isEmpty_iff.1 hasked, hrecalled c hmem⟩

end Decrypt

end Unmask
