import Unmask.Proofs.Decrypt.Asked
import Unmask.Proofs.Decrypt.Sites
import Unmask.Proofs.Module.Execution

/-!
# The argument that is sent is the one the call gets

A decrypt call is rewritten if the slot before it loads a constant, and that constant is sent to
the host. Whether a branch leads to the call is not looked at: `rewritten_at_branch_target`. An
execution that comes to the call from the slot before it has that constant on top of its stack, and
if no instruction names the slot of the call as a target, every execution comes from there.
-/

namespace Unmask.Decrypt

variable {σ : Type} {methods : List DecryptMethod} {k : Consultation} {ks ks' : List Consultation}
  {d d' d'' : MethodDef} {n : Nat} {t : Token} {before after : Array Instruction}

/-! ## What decrypt edits do to targets and constants -/

theorem literal_targets {kind : LiteralKind} {v : Value} {load : Instruction}
    (h : kind.literal v = .ok load) : load.targets = [] := by
  cases kind <;> cases v <;> cases h <;> rfl

/-- A slot is what it was, a `nop` or the literal for a decrypt call. `BodyLaw` says more, but only
where decrypt methods have tokens of definitions. -/
theorem slot_of_edits (h : BodyEdits [] methods before after) (i : Nat) :
    after[i]? = before[i]? ∨ after[i]? = some .nop ∨
      ∃ c ∈ methods, before[i]? = some (.call c.token) ∧
        ∃ v load, c.kind.literal v = .ok load ∧ after[i]? = some load := by
  induction h with
  | refl => exact .inl rfl
  | tail _ hedit ih =>
    cases hedit with
    | redirect hp => cases hp
    | @decrypt c body j arg load v hc hcall _ _ hload =>
      rw [getElem?_decrypt (Array.getElem?_eq_some_iff.1 hcall).1]
      split
      · rename_i hi
        rw [hi, hcall] at ih
        rcases ih with hsame | hnop | ⟨_, _, _, w, old, hold, hliteral⟩
        · exact .inr (.inr ⟨c, hc, hi ▸ hsame.symm, v, load, hload, rfl⟩)
        · exact absurd (Option.some.inj hnop).symm (nop_ne_call c.token)
        · exact absurd (Option.some.inj hliteral).symm (ne_call_of_literal hold c.token)
      split
      · exact .inr (.inl rfl)
      · exact ih

/-- No target comes up. -/
theorem targeted_of_edits (h : BodyEdits [] methods before after) (ht : Targeted after n) :
    Targeted before n := by
  obtain ⟨i, hi, hn⟩ := ht
  obtain ⟨j, hj⟩ := Array.mem_iff_getElem?.1 hi
  rcases slot_of_edits h j with hsame | hnop | ⟨_, _, _, v, load, hload, hliteral⟩
  · exact ⟨i, Array.mem_of_getElem? (hsame.symm.trans hj), hn⟩
  · obtain rfl := Option.some.inj (hj.symm.trans hnop)
    cases hn
  · obtain rfl := Option.some.inj (hj.symm.trans hliteral)
    rw [literal_targets hload] at hn
    cases hn

/-- A constant stays until it is used up. -/
theorem constant_of_edits (h : BodyEdits [] methods before after)
    (hconst : (before[n]?.bind Instruction.constant?).isSome) :
    after[n]? = before[n]? ∨ after[n]? = some .nop := by
  rcases slot_of_edits h n with hsame | hnop | ⟨c, _, hcall, _⟩
  · exact .inl hsame
  · exact .inr hnop
  · exact absurd hconst (not_constant_of_call hcall)

/-! ## Sites that were rewritten -/

/-- The consultation `k` is about the call of `t` in slot `n + 1`, and the site was rewritten for
it. The method was `d` before, and has become `d'`. -/
structure Rewrote (methods : List DecryptMethod) (k : Consultation) (d d' : MethodDef) (n : Nat)
    (t : Token) : Prop where
  before : MethodDef.Framed (BodyEdits [] methods) d k.site.method
  index : k.site.index = n + 1
  call : k.site.method.code[n + 1]? = some (.call t)
  method : k.method ∈ methods ∧ k.method.token = t
  argument : k.site.method.code[n]?.bind Instruction.constant? = some k.arg
  faithful : k.Faithful
  after : ∃ v load, k.answer = .ok v ∧ k.method.kind.literal v = .ok load ∧
    k.edits = some [⟨n, .nop⟩, ⟨n + 1, load⟩] ∧
    MethodDef.Framed (BodyEdits [] methods)
      { k.site.method with
        body := some (applyPatches [⟨n, .nop⟩, ⟨n + 1, load⟩] k.site.method.code) } d'

/-- The method was edited, and of every call that has gone one of the consultations tells how. -/
structure Captured (methods : List DecryptMethod) (ks : List Consultation) (d d' : MethodDef) :
    Prop where
  edits : MethodDef.Framed (BodyEdits [] methods) d d'
  rewrote : ∀ (i : Nat) (t : Token), d.code[i]? = some (.call t) → d'.code[i]? ≠ some (.call t) →
    ∃ n, i = n + 1 ∧ ∃ k ∈ ks, Rewrote methods k d d' n t

namespace Captured

theorem refl (methods : List DecryptMethod) (ks : List Consultation) (d : MethodDef) :
    Captured methods ks d d :=
  ⟨.refl (fun _ => .refl) d, fun _ _ hcall hgone => absurd hcall hgone⟩

theorem mono (hks : ks ⊆ ks') (h : Captured methods ks d d') : Captured methods ks' d d' where
  edits := h.edits
  rewrote i t hcall hgone := by
    obtain ⟨n, hn, k, hk, hrewrote⟩ := h.rewrote i t hcall hgone
    exact ⟨n, hn, k, hks hk, hrewrote⟩

theorem trans (h : Captured methods ks d d') (h' : Captured methods ks d' d'') :
    Captured methods ks d d'' where
  edits := h.edits.trans (fun _ _ _ => .trans) h'.edits
  rewrote i t hcall hgone := by
    by_cases hleft : d'.code[i]? = some (.call t)
    · obtain ⟨n, hn, k, hk, hrewrote⟩ := h'.rewrote i t hleft hgone
      exact ⟨n, hn, k, hk,
        { hrewrote with before := h.edits.trans (fun _ _ _ => .trans) hrewrote.before }⟩
    · obtain ⟨n, hn, k, hk, hrewrote⟩ := h.rewrote i t hcall hleft
      obtain ⟨v, load, hanswer, hload, hedits, hafter⟩ := hrewrote.after
      exact ⟨n, hn, k, hk, { hrewrote with
        after := ⟨v, load, hanswer, hload, hedits,
          hafter.trans (fun _ _ _ => .trans) h'.edits⟩ }⟩

/-- One run of edits after another. -/
theorem forall₂_append {a b c : List MethodDef} (h : List.Forall₂ (Captured methods ks) a b)
    (h' : List.Forall₂ (Captured methods ks') b c) :
    List.Forall₂ (Captured methods (ks ++ ks')) a c :=
  forall₂_trans (fun _ _ _ hd hd' => hd.trans hd')
    (h.imp fun _ _ => mono (List.subset_append_left ks ks'))
    (h'.imp fun _ _ => mono (List.subset_append_right ks ks'))

theorem forall₂_refl (methods : List DecryptMethod) (ks : List Consultation)
    (ds : List MethodDef) : List.Forall₂ (Captured methods ks) ds ds :=
  List.forall₂_same.2 fun d _ => refl methods ks d

end Captured

/-! ## Level by level -/

theorem editsFor_eq_some {method : DecryptMethod} {site : Site} {answer : Answer}
    {ps : List Patch} (h : editsFor method site answer = some ps) :
    ∃ v load, answer = .ok v ∧ method.kind.literal v = .ok load ∧
      ps = [⟨site.index - 1, .nop⟩, ⟨site.index, load⟩] := by
  unfold editsFor at h
  split at h
  · cases h
  · rename_i load hload
    obtain ⟨v, hanswer, hliteral⟩ := bind_eq_ok hload
    refine ⟨v, load, hanswer, ?_, (Option.some.inj h).symm⟩
    cases hkind : method.kind.literal v with
    | error e => simp [hkind, Except.mapError] at hliteral
    | ok load' => simpa [hkind, Except.mapError] using hliteral

/-- A decrypt edit for a consultation. -/
theorem Captured.decrypt (hmethod : k.method ∈ methods) {body : Array Instruction}
    (hcall : body[n + 1]? = some (.call k.method.token))
    (hsite : k.site = ⟨{ d with body := some body }, n + 1⟩) (hfaithful : k.Faithful)
    (harg : body[n]?.bind Instruction.constant? = some k.arg) {v : Value} {load : Instruction}
    (hanswer : k.answer = .ok v) (hload : k.method.kind.literal v = .ok load)
    (hedits : k.edits = some [⟨n, .nop⟩, ⟨n + 1, load⟩]) :
    Captured methods [k] { d with body := some body }
      { d with body := some (applyPatches [⟨n, .nop⟩, ⟨n + 1, load⟩] body) } := by
  obtain ⟨i, hslot, hconst⟩ := Option.bind_eq_some_iff.1 harg
  have hloaded : i.constant?.isSome := by rw [hconst]; rfl
  refine ⟨⟨rfl, rfl, rfl, rfl, .some (.single (.decrypt hmethod hcall hslot hloaded hload))⟩, ?_⟩
  intro j t hj hgone
  have hafter := getElem?_decrypt (Array.getElem?_eq_some_iff.1 hcall).1 load j
  by_cases hlast : j = n + 1
  · subst hlast
    have htoken : k.method.token = t := call_injective (Option.some.inj (hcall.symm.trans hj))
    refine ⟨n, rfl, k, List.mem_singleton_self k, ?_⟩
    exact
      { before := by rw [hsite]; exact .refl (fun _ => .refl) _
        index := by rw [hsite]
        call := by rw [hsite]; exact hj
        method := ⟨hmethod, htoken⟩
        argument := by rw [hsite]; exact harg
        faithful := hfaithful
        after := ⟨v, load, hanswer, hload, hedits, by rw [hsite]; exact .refl (fun _ => .refl) _⟩ }
  · have hfirst : j ≠ n := by
      rintro rfl
      exact not_constant_of_call hj (Option.isSome_of_eq_some harg)
    rw [if_neg hlast, if_neg hfirst] at hafter
    exact absurd (hafter.trans hj) hgone

variable (host : Host σ) (numeric : NumericOracle) (image : ImageId)

/-- A slot is rewritten for the consultation made there. -/
theorem patchSlot_captured {method : DecryptMethod} (hmethod : method ∈ methods) (live : Live)
    (d : MethodDef) (scan : Scan (Walk (σ × List Exchange))) (i : Nat) :
    let site : Site := ⟨{ d with body := some scan.body }, i⟩
    Captured methods (siteConsultation? host method live site scan.state).toList
      { d with body := some scan.body }
      { d with body := some (patchSlot (patchSite host.recording method live) d scan i).body } := by
  intro site
  rw [patchSlot_body]
  unfold siteConsultation?
  by_cases hsite : isSite method site.instruction
  · rw [if_pos hsite]
    cases harg : site.previous?.bind Instruction.constant? with
    | none =>
      have hnone : (patchSite host.recording method live site scan.state).1 = none := by
        simp [patchSite, hsite, harg]
      rw [hnone]
      exact .refl methods _ _
    | some arg =>
      obtain ⟨hedits, -⟩ := patchSite_consults host.recording method live scan.state hsite harg
      have hfaithful := ask_faithful host method site live arg scan.state.oracle
      rw [Option.map_some, Option.toList_some, hedits]
      dsimp only at hfaithful ⊢
      cases hpatches :
          editsFor method site (ask host.recording live arg scan.state.oracle).value with
      | none => exact .refl methods _ _
      | some ps =>
        obtain ⟨v, load, hanswer, hload, rfl⟩ := editsFor_eq_some hpatches
        have hcall := instruction_eq_call_iff.1 (isSite_iff.1 hsite)
        cases i with
        | zero => cases harg
        | succ n =>
          rw [hpatches] at hfaithful
          exact .decrypt hmethod hcall rfl hfaithful harg hanswer hload rfl
  · have hnone : (patchSite host.recording method live site scan.state).1 = none := by
      simp [patchSite, hsite]
    rw [hnone]
    exact .refl methods _ _

theorem turn_captured {method : DecryptMethod} (hmethod : method ∈ methods) (live : Live)
    (p : Progress (σ × List Exchange)) :
    List.Forall₂ (Captured methods (turnConsultations host method live p)) p.module.methods
      (p.turn host.recording method live).module.methods := by
  refine patch_observed_forall₂ (R := Captured methods) (.refl methods [])
    (fun l l' _ _ _ h h' => ?_) (patchSlot_captured host hmethod live) (fun _ _ _ _ hsub h => ?_)
    p.module p.walk
  · exact (h.mono (List.subset_append_left l l')).trans (h'.mono (List.subset_append_right l l'))
  · exact h.mono hsub

theorem decryptMethod_captured (helper : DecryptHelper) {method : DecryptMethod}
    (hmethod : method ∈ methods) (p : Progress (σ × List Exchange)) :
    List.Forall₂ (Captured methods (methodConsultations host numeric image helper p method))
      p.module.methods
      (decryptMethod host.recording numeric image helper p method).module.methods := by
  unfold methodConsultations
  rcases decryptMethod_cases host.recording numeric image helper p method with
    ⟨hnone, note, hdone⟩ | ⟨oracle, horacle, ⟨hmissing, note, hdone⟩ | ⟨hfound, hdone⟩⟩
  · rw [hdone]
    exact Captured.forall₂_refl methods _ _
  · rw [hdone]
    exact Captured.forall₂_refl methods _ _
  · simp only [horacle, hfound, hdone, if_true]
    exact turn_captured host hmethod _ (p.heard _)

theorem foldl_decryptMethod_captured (helper : DecryptHelper) {l : List DecryptMethod}
    (hl : ∀ method ∈ l, method ∈ methods) (p : Progress (σ × List Exchange)) :
    List.Forall₂ (Captured methods (methodsConsultations host numeric image helper l p))
      p.module.methods
      (l.foldl (decryptMethod host.recording numeric image helper) p).module.methods := by
  induction l generalizing p with
  | nil => exact Captured.forall₂_refl methods _ _
  | cons method rest ih =>
    obtain ⟨hmethod, hrest⟩ := List.forall_mem_cons.1 hl
    exact Captured.forall₂_append (decryptMethod_captured host numeric image helper hmethod p)
      (ih hrest _)

theorem decryptHelpers_captured (found : List DecryptHelper)
    (hfound : ∀ helper ∈ found, ∀ method ∈ helper.methods, method ∈ methods)
    (p : Progress (σ × List Exchange)) :
    List.Forall₂ (Captured methods (helpersConsultations host numeric image found p))
      p.module.methods
      (decryptHelpers host.recording numeric image found p).module.methods := by
  induction found generalizing p with
  | nil => exact Captured.forall₂_refl methods _ _
  | cons helper rest ih =>
    obtain ⟨hmethods, hrest⟩ := List.forall_mem_cons.1 hfound
    unfold helpersConsultations
    rcases decryptHelpers_cons host.recording numeric image helper p rest with
      ⟨hmissing, note, hdone⟩ | ⟨hthere, hdone⟩
    · rw [hdone]
      exact Captured.forall₂_refl methods _ _
    · simp only [hthere, hdone, if_true]
      exact Captured.forall₂_append
        (foldl_decryptMethod_captured host numeric image helper hmethods (p.heard _)) (ih hrest _)

omit image in
theorem run_captured (data : ByteArray) (m : Module) (o : Oracle (σ × List Exchange)) :
    List.Forall₂ (Captured (methodsFound m) (runConsultations host numeric data m o)) m.methods
      (run host.recording data numeric m o).module.methods := by
  unfold runConsultations
  rcases run_cases host.recording numeric data m o with
    ⟨-, hmodule, -⟩ | ⟨-, ⟨e, -, hmodule, -⟩ | ⟨image, hok, hmodule, -⟩⟩
  · rw [hmodule]
    exact Captured.forall₂_refl _ _ _
  · rw [hmodule]
    exact Captured.forall₂_refl _ _ _
  · simp only [hok, hmodule]
    exact decryptHelpers_captured host numeric image _
      (fun helper hhelper method hmethod =>
        List.mem_flatMap.2 ⟨helper, hhelper, hmethod⟩) (Progress.start host.recording data m o)

/-! ## Executions -/

namespace Rewrote

theorem edits (h : Rewrote methods k d d' n t) : BodyEdits [] methods d.code k.site.method.code :=
  MethodDef.Framed.code .refl h.before

/-- If the method has a constant in the slot from the start, it is the argument. -/
theorem argument_before (h : Rewrote methods k d d' n t)
    (hconst : (d.code[n]?.bind Instruction.constant?).isSome) :
    d.code[n]?.bind Instruction.constant? = some k.arg := by
  rcases constant_of_edits h.edits hconst with hsame | hnop
  · rw [← hsame]
    exact h.argument
  · have harg := h.argument
    rw [hnop] at harg
    cases harg

end Rewrote

theorem oracleAfter_alike (data : ByteArray) (ms : List Module) {o : Oracle (σ × List Exchange)}
    {u : Oracle σ} (h : o.Alike (fun s t => s.1 = t) u) :
    (oracleAfter host.recording data numeric ms o).Alike (fun s t => s.1 = t)
      (oracleAfter host data numeric ms u) := by
  induction ms generalizing o u with
  | nil => exact h
  | cons m rest ih => exact ih (run_alike host.recording_alike numeric data m h).state

/-- Whatever the host, and whichever modules a pass has been run over before: a call that a run
takes away is one of a decrypt method and has been rewritten for a consultation, which got its
answer from a call of the host with the constant in the slot before. On every execution of the body,
as it was then, that goes on from that slot, the constant is on top of the stack. If no instruction
of the method names the slot of the call as a target, none does then, and every execution that comes
to the call comes from the slot before it. The same is true of the method as it was before the run,
if it had a constant there. -/
theorem rewritten_argument (host : Host σ) (data : ByteArray) (numeric : NumericOracle)
    (ms : List Module) (m : Module) (s : σ) :
    let start : Oracle (σ × List Exchange) := { host := (s, []) }
    let ks := runConsultations host numeric data m
      (oracleAfter host.recording data numeric ms start)
    let done := run host data numeric m (oracleAfter host data numeric ms { host := s })
    List.Forall₂ (fun d d' => ∀ i t,
        d.code[i]? = some (.call t) → d'.code[i]? ≠ some (.call t) →
        ∃ n, i = n + 1 ∧ ∃ k ∈ ks, Rewrote (methodsFound m) k d d' n t ∧
          k.Answered (consultations host numeric data ms start ++ ks) ∧
          Delivers k.site.method.code n k.arg ∧
          (¬ Targeted d.code (n + 1) → ¬ Targeted k.site.method.code (n + 1)) ∧
          ((d.code[n]?.bind Instruction.constant?).isSome → Delivers d.code n k.arg))
      m.methods done.module.methods := by
  intro start ks done
  have hkept : Kept ([] ++ consultations host numeric data ms start ++ ks) _ :=
    run_kept host numeric data m (consultations_kept host numeric data ms (kept_start s))
  have hstart : start.Alike (fun s t => s.1 = t) { host := s } := ⟨rfl, rfl⟩
  have halike := run_alike host.recording_alike numeric data m
    (oracleAfter_alike host numeric data ms hstart)
  have hcaptured := run_captured host numeric data m
    (oracleAfter host.recording data numeric ms start)
  rw [halike.module] at hcaptured
  refine hcaptured.imp fun d d' hd i t hcall hgone => ?_
  obtain ⟨n, hn, k, hk, hrewrote⟩ := hd.rewrote i t hcall hgone
  exact ⟨n, hn, k, hk, hrewrote, hkept.answered (List.mem_append_right _ hk),
    .of_constant hrewrote.argument,
    fun hfree htarget => hfree (targeted_of_edits hrewrote.edits htarget),
    fun hconst => .of_constant (hrewrote.argument_before hconst)⟩

/-- The call gets the constant that was sent, whatever the instructions do. -/
theorem rewritten_argument_numberModule :
    let main : Array Instruction := #[⟨.ldcI4, .immediate (.int32 7)⟩, .call ⟨0x06000002⟩]
    let done := run numberHost.host .empty .typeMatched (numberModule main) { host := [] }
    done.module = numberModule #[.nop, ⟨.ldcI4, .immediate (.int32 8)⟩] ∧
      Delivers main 0 7 := by
  intro main done
  have hdone : done.module = numberModule #[.nop, ⟨.ldcI4, .immediate (.int32 8)⟩] := by
    decide +kernel
  have hmethods := rewritten_argument numberHost.host .empty .typeMatched [] (numberModule main) []
  obtain ⟨n, hn, k, hk, -, -, -, -, hdelivers⟩ :=
    (List.forall₂_iff_get.1 hmethods).2 2 (by decide) (by decide +kernel) 1 ⟨0x06000002⟩
      (by decide +kernel) (by decide +kernel)
  obtain rfl : 0 = n := Nat.succ.inj hn
  have hargs : (runConsultations numberHost.host .typeMatched .empty (numberModule main)
      { host := ([], []) }).map Consultation.arg = [7] := by decide +kernel
  have harg : k.arg ∈ [(7 : Int32)] := hargs ▸ List.mem_map_of_mem hk
  rw [List.mem_singleton.1 harg] at hdelivers
  exact ⟨hdone, hdelivers (by decide +kernel)⟩

/-- A branch leads to the call, and over the slot before it: the host is asked for 7, while an
execution comes to the call with 5 on top of the stack. -/
theorem rewritten_at_branch_target :
    let main : Array Instruction := #[⟨.ldcI4, .immediate (.int32 5)⟩, ⟨⟨0x38⟩, .target 3⟩,
      ⟨.ldcI4, .immediate (.int32 7)⟩, .call ⟨0x06000002⟩]
    (run numberHost.host .empty .typeMatched (numberModule main) { host := [] }).module =
        numberModule #[⟨.ldcI4, .immediate (.int32 5)⟩, ⟨⟨0x38⟩, .target 3⟩, .nop,
          ⟨.ldcI4, .immediate (.int32 8)⟩] ∧
      (runConsultations numberHost.host .typeMatched .empty (numberModule main)
        { host := ([], []) }).map (fun k => (k.site.index, k.arg)) = [(3, 7)] ∧
      Targeted main 3 ∧
      Reached (fun _ before after => after = before) main ⟨3, [.int32 5]⟩ := by
  intro main
  refine ⟨by decide +kernel, by decide +kernel, by decide +kernel, ?_⟩
  have hload : BodyStep (fun _ before after => after = before) main ⟨0, []⟩ ⟨1, [.int32 5]⟩ :=
    .constant rfl rfl
  have hbranch : BodyStep (fun _ before after => after = before) main
      ⟨1, [.int32 5]⟩ ⟨3, [.int32 5]⟩ :=
    .other rfl rfl rfl (.inr (List.mem_singleton.2 rfl))
  exact .tail (.single hload) hbranch

end Unmask.Decrypt
