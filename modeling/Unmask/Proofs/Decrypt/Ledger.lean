import Unmask.Proofs.Decrypt.Processed
import Unmask.Proofs.Decrypt.Sites

/-!
# The ledger of a run

The events of a run account for the calls of the decrypt methods that it processes: each call has
exactly one event, and no other event is about a slot. A ledger says so of the methods of a module
before and after some turns, a turn being the walk over the sites of one decrypt method. It is put
together of the ledgers of the turns, as a turn keeps the calls that the other turns are about.
-/

namespace Unmask.Decrypt

variable {σ : Type}

/-- The calls of `t` in a method. -/
def callPlaces (t : Token) (d : MethodDef) : List (Token × Nat) :=
  (callsBelow t d.code d.code.size).map fun i => (d.token, i)

theorem mem_callPlaces {t : Token} {d : MethodDef} {place : Token × Nat} :
    place ∈ callPlaces t d ↔ d.token = place.1 ∧ d.code[place.2]? = some (.call t) := by
  obtain ⟨token, i⟩ := place
  simp only [callPlaces, callsBelow, List.mem_map, List.mem_filter, List.mem_range,
    decide_eq_true_eq, Prod.mk.injEq]
  constructor
  · rintro ⟨j, ⟨-, hcall⟩, rfl, rfl⟩
    exact ⟨rfl, hcall⟩
  · rintro ⟨rfl, hcall⟩
    exact ⟨i, ⟨(Array.getElem?_eq_some_iff.1 hcall).1, hcall⟩, rfl, rfl⟩

/-- An event about no slot, which tells of no change. -/
def Quiet (e : Event) : Prop := e.location = none ∧ ¬ e.kind.isTransformation

/-- The event is about a call of one of the decrypt methods, and tells what became of it. -/
def Settled (methods : List DecryptMethod) (before after : List MethodDef) (e : Event) : Prop :=
  ∃ c ∈ methods, ∃ d ∈ before, ∃ d' ∈ after, ∃ i, d'.token = d.token ∧
    e.place? = some (d.token, i) ∧ d.code[i]? = some (.call c.token) ∧ Told c d'.code i e.kind

/-- The turns of `methods` have made `after` of `before` and left the events `es`. -/
structure Ledger (methods : List DecryptMethod) (before after : List MethodDef) (es : EventLog) :
    Prop where
  kept : List.Forall₂ (MethodDef.Framed (CallsKept (methods.map DecryptMethod.token))) before after
  places : es.filterMap Event.place? =
    methods.flatMap fun c => before.flatMap (callPlaces c.token)
  told : ∀ e ∈ es, Quiet e ∨ Settled methods before after e
  idle (h : ∀ e ∈ es, ¬ e.kind.isTransformation) : after = before

namespace Ledger

variable {methods methods' : List DecryptMethod} {a b c : List MethodDef} {es es' : EventLog}

theorem quiet (a : List MethodDef) (h : ∀ e ∈ es, Quiet e) : Ledger [] a a es where
  kept := List.forall₂_same.2 fun d _ => .refl (CallsKept.refl _) d
  places := by
    refine List.filterMap_eq_nil_iff.2 fun e he => ?_
    unfold Event.place?
    rw [(h e he).1]
    cases e.token <;> rfl
  told e he := .inl (h e he)
  idle _ := rfl

end Ledger

/-! ## One turn -/

/-- The walk of `method` over the body of `d` has made `d'` of it and left the events `es`. -/
structure Entry (method : DecryptMethod) (d d' : MethodDef) (es : EventLog) : Prop where
  kept : MethodDef.Framed (CallsKept [method.token]) d d'
  places : es.filterMap Event.place? = callPlaces method.token d
  told : ∀ e ∈ es, ∃ i, e.place? = some (d.token, i) ∧ d.code[i]? = some (.call method.token) ∧
    Told method d'.code i e.kind
  idle (h : ∀ e ∈ es, ¬ e.kind.isTransformation) : d' = d

theorem scanMethod_entry (host : Host σ) (method : DecryptMethod) (live : Live) (d : MethodDef)
    (acc : Walk σ × Nat × List LogRecord) :
    let done := scanMethod (patchSlot (patchSite host method live)) d acc
    ∃ es, done.2.1.journal.events = acc.1.journal.events ++ es ∧ Entry method d done.1 es := by
  cases hbody : d.body with
  | none =>
    have hdone : scanMethod (patchSlot (patchSite host method live)) d acc = (d, acc) := by
      simp only [scanMethod, hbody]
    have hcode : d.code = #[] := by rw [MethodDef.code, hbody, Option.getD_none]
    rw [hdone]
    refine ⟨[], (List.append_nil _).symm, .refl (CallsKept.refl _) d, ?_, fun e he => ?_,
      fun _ => rfl⟩
    · rw [callPlaces, hcode]
      rfl
    · exact absurd he List.not_mem_nil
  | some body =>
    obtain ⟨es, hevents, hscanned⟩ := foldl_patchSlot_scanned host method live d
      ⟨body, acc.1, acc.2.1, acc.2.2⟩ body.size
    have hcode : d.code = body := by rw [MethodDef.code, hbody, Option.getD_some]
    have hdone : (scanMethod (patchSlot (patchSite host method live)) d acc).1 =
        { d with body := some ((List.range body.size).foldl
          (patchSlot (patchSite host method live) d) ⟨body, acc.1, acc.2.1, acc.2.2⟩).body } := by
      simp only [scanMethod, hbody]
    refine ⟨es, by simpa only [scanMethod, hbody] using hevents, ?_⟩
    rw [hdone]
    refine ⟨⟨rfl, rfl, rfl, rfl, ?_⟩, ?_, fun e he => ?_, fun hidle => ?_⟩
    · rw [hbody]
      exact .some hscanned.kept
    · rw [callPlaces, hcode]
      exact hscanned.places
    · obtain ⟨i, -, hplace, hcall, htold⟩ := hscanned.told e he
      exact ⟨i, hplace, by rw [hcode]; exact hcall, htold⟩
    · rw [hscanned.idle hidle, ← hbody]

namespace Ledger

theorem nil (methods : List DecryptMethod) : Ledger methods [] [] [] :=
  ⟨.nil, by simp, nofun, fun _ => rfl⟩

theorem cons {method : DecryptMethod} {d d' : MethodDef} (hentry : Entry method d d' es)
    (h : Ledger [method] a b es') : Ledger [method] (d :: a) (d' :: b) (es ++ es') where
  kept := .cons hentry.kept h.kept
  places := by
    rw [List.filterMap_append, hentry.places, h.places]
    simp
  told e he := by
    rcases List.mem_append.1 he with hhead | hrest
    · obtain ⟨i, hplace, hcall, htold⟩ := hentry.told e hhead
      exact .inr ⟨method, List.mem_cons_self, d, List.mem_cons_self, d', List.mem_cons_self, i,
        hentry.kept.token, hplace, hcall, htold⟩
    · refine (h.told e hrest).imp_right ?_
      rintro ⟨c, hc, u, hu, u', hu', hsettled⟩
      exact ⟨c, hc, u, List.mem_cons_of_mem d hu, u', List.mem_cons_of_mem d' hu', hsettled⟩
  idle hes := by
    rw [hentry.idle fun e he => hes e (List.mem_append_left es' he),
      h.idle fun e he => hes e (List.mem_append_right es he)]

/-- The turn of one decrypt method over the methods of a module. -/
theorem of_turn (host : Host σ) (method : DecryptMethod) (live : Live) (ds : List MethodDef)
    (acc : Walk σ × Nat × List LogRecord) :
    let done := mapState (scanMethod (patchSlot (patchSite host method live))) ds acc
    ∃ es, done.2.1.journal.events = acc.1.journal.events ++ es ∧
      Ledger [method] ds done.1 es := by
  induction ds generalizing acc with
  | nil => exact ⟨[], (List.append_nil _).symm, .nil [method]⟩
  | cons d rest ih =>
    obtain ⟨es, hevents, hentry⟩ := scanMethod_entry host method live d acc
    obtain ⟨es', hevents', hledger⟩ :=
      ih (scanMethod (patchSlot (patchSite host method live)) d acc).2
    refine ⟨es ++ es', ?_, .cons hentry hledger⟩
    rw [← List.append_assoc, ← hevents]
    exact hevents'

/-! ## Turn after turn -/

/-- The calls of a method that has no turn are where they were. -/
theorem callPlaces_eq (h : Ledger methods a b es) {t : Token}
    (ht : t ∉ methods.map DecryptMethod.token) :
    b.flatMap (callPlaces t) = a.flatMap (callPlaces t) := by
  have hkept := h.kept
  clear h
  induction hkept with
  | nil => rfl
  | @cons d d' _ _ hframed _ ih =>
    have hcode := hframed.code (CallsKept.refl _ #[])
    have hhead : callPlaces t d' = callPlaces t d := by
      unfold callPlaces callsBelow
      simp only [hframed.token, hcode.size, hcode.call_iff ht]
    rw [List.flatMap_cons, List.flatMap_cons, hhead, ih]

theorem exists_after (h : Ledger methods a b es) {d : MethodDef} (hd : d ∈ a) :
    ∃ d' ∈ b, d'.token = d.token ∧
      CallsKept (methods.map DecryptMethod.token) d.code d'.code := by
  obtain ⟨d', hd', hframed⟩ := exists_right_of_forall₂ h.kept hd
  exact ⟨d', hd', hframed.token, hframed.code (CallsKept.refl _ #[])⟩

theorem exists_before (h : Ledger methods a b es) {d' : MethodDef} (hd' : d' ∈ b) :
    ∃ d ∈ a, d'.token = d.token ∧
      CallsKept (methods.map DecryptMethod.token) d.code d'.code := by
  obtain ⟨d, hd, hframed⟩ := exists_left_of_forall₂ h.kept hd'
  exact ⟨d, hd, hframed.token, hframed.code (CallsKept.refl _ #[])⟩

/-- Turns of different methods one after the other. -/
theorem trans (hdisjoint : List.Disjoint (methods.map DecryptMethod.token)
      (methods'.map DecryptMethod.token))
    (h : Ledger methods a b es) (h' : Ledger methods' b c es') :
    Ledger (methods ++ methods') a c (es ++ es') where
  kept := by
    have hleft : methods.map DecryptMethod.token ⊆ (methods ++ methods').map DecryptMethod.token :=
      List.map_subset _ (List.subset_append_left _ _)
    have hright :
        methods'.map DecryptMethod.token ⊆ (methods ++ methods').map DecryptMethod.token :=
      List.map_subset _ (List.subset_append_right _ _)
    exact forall₂_trans (fun _ _ _ hd hd' => hd.trans (fun _ _ _ => CallsKept.trans) hd')
      (h.kept.imp fun _ _ hd => hd.mono fun _ _ => CallsKept.mono hleft)
      (h'.kept.imp fun _ _ hd => hd.mono fun _ _ => CallsKept.mono hright)
  places := by
    rw [List.filterMap_append, h.places, h'.places, List.flatMap_append]
    congr 1
    refine List.flatMap_congr fun c hc => ?_
    exact h.callPlaces_eq fun hmem => hdisjoint hmem (List.mem_map_of_mem hc)
  told e he := by
    rcases List.mem_append.1 he with hfirst | hsecond
    · refine (h.told e hfirst).imp_right ?_
      rintro ⟨c, hc, d, hd, d', hd', i, htoken, hplace, hcall, htold⟩
      obtain ⟨d'', hd'', htoken', hkept⟩ := h'.exists_after hd'
      have hother : c.token ∉ methods'.map DecryptMethod.token := fun hmem =>
        hdisjoint (List.mem_map_of_mem hc) hmem
      exact ⟨c, List.mem_append_left methods' hc, d, hd, d'', hd'', i, htoken'.trans htoken,
        hplace, hcall, htold.of_call_iff (hkept.call_iff hother)⟩
    · refine (h'.told e hsecond).imp_right ?_
      rintro ⟨c, hc, d', hd', d'', hd'', i, htoken, hplace, hcall, htold⟩
      obtain ⟨d, hd, htoken', hkept⟩ := h.exists_before hd'
      exact ⟨c, List.mem_append_right methods hc, d, hd, d'', hd'', i, htoken.trans htoken',
        htoken' ▸ hplace, hkept.old hcall, htold⟩
  idle hes := by
    rw [h'.idle fun e he => hes e (List.mem_append_right es he),
      h.idle fun e he => hes e (List.mem_append_left es' he)]

end Ledger

/-! ## A run -/

/-- From one point of a run to another, `methods` had their turns. -/
structure Moved (methods : List DecryptMethod) (p p' : Progress σ) : Prop where
  shape : p.module.SameButBodies p'.module
  ledger : ∃ es, p'.walk.journal.events = p.walk.journal.events ++ es ∧
    Ledger methods p.module.methods p'.module.methods es

namespace Moved

variable {methods methods' : List DecryptMethod} {p p' p'' : Progress σ}

theorem quiet {es : EventLog} (hmodule : p'.module = p.module)
    (hevents : p'.walk.journal.events = p.walk.journal.events ++ es)
    (hquiet : ∀ e ∈ es, Quiet e) : Moved [] p p' where
  shape := hmodule ▸ .refl p.module
  ledger := ⟨es, hevents, hmodule ▸ .quiet p.module.methods hquiet⟩

/-- An answer of the host changes its state and the log only. -/
theorem heard (p : Progress σ) (s : σ) (log : List LogRecord) :
    Moved [] p (Progress.note { p with walk.oracle.host := s } ⟨[], log⟩) :=
  quiet rfl rfl nofun

theorem trans (hdisjoint : List.Disjoint (methods.map DecryptMethod.token)
      (methods'.map DecryptMethod.token))
    (h : Moved methods p p') (h' : Moved methods' p' p'') : Moved (methods ++ methods') p p'' := by
  obtain ⟨es, hevents, hledger⟩ := h.ledger
  obtain ⟨es', hevents', hledger'⟩ := h'.ledger
  refine ⟨h.shape.trans h'.shape, es ++ es', ?_, hledger.trans hdisjoint hledger'⟩
  rw [hevents', hevents, List.append_assoc]

/-- What comes before the turns without being one does not matter. -/
theorem resume (h : Moved [] p p') (h' : Moved methods p' p'') : Moved methods p p'' := by
  have hdisjoint : List.Disjoint (([] : List DecryptMethod).map DecryptMethod.token)
      (methods.map DecryptMethod.token) := List.disjoint_nil_left _
  exact Moved.trans hdisjoint h h'

theorem of_turn (host : Host σ) (method : DecryptMethod) (live : Live) (p : Progress σ)
    (n : Nat) :
    let edited := p.module.patch (patchSite host method live) p.walk
    Moved [method] p
      ⟨edited.module, { edited.state with
        journal := edited.state.journal ++ ⟨[], edited.dropped⟩ }, n⟩ := by
  obtain ⟨hmethods, hstate⟩ := editMethods_methods
    (scanMethod (patchSlot (patchSite host method live))) p.module (p.walk, 0, [])
  obtain ⟨es, hevents, hledger⟩ := Ledger.of_turn host method live p.module.methods (p.walk, 0, [])
  rw [← hstate] at hevents
  rw [← hmethods] at hledger
  exact ⟨.patch _ p.module p.walk, es, (List.append_nil _).trans hevents, hledger⟩

end Moved

variable (host : Host σ) (numeric : NumericOracle) (image : ImageId)

theorem warning_quiet (token : Token) (message record : String) :
    ∀ e ∈ (warning token message record).events, Quiet e :=
  List.forall_mem_singleton.2 ⟨rfl, Bool.false_ne_true⟩

/-- A decrypt method has a turn exactly if its live method is found. -/
theorem decryptMethod_moved (helper : DecryptHelper) (p : Progress σ) (method : DecryptMethod) :
    Moved (if liveFound host numeric image helper p method then [method] else []) p
      (decryptMethod host numeric image helper p method) := by
  unfold decryptMethod liveFound
  cases horacle : oracleFor? numeric helper method with
  | none => exact .quiet rfl rfl (warning_quiet _ _ _)
  | some oracle =>
    have hheard := Moved.heard p
      (host.findMethod image helper.runtimeName oracle.name p.walk.oracle.host).state
      (host.findMethod image helper.runtimeName oracle.name p.walk.oracle.host).log
    by_cases hfound : (host.findMethod image helper.runtimeName oracle.name
      p.walk.oracle.host).value
    · simp only [hfound, if_true, Bool.not_true, Bool.false_eq_true, if_false]
      exact hheard.resume (.of_turn host method _ _ _)
    · simp only [hfound, Bool.false_eq_true, if_false, Bool.not_false, if_true]
      exact hheard.resume (.quiet rfl rfl (warning_quiet _ _ _))

theorem foldl_decryptMethod_moved (helper : DecryptHelper) {l : List DecryptMethod}
    (hl : (l.map DecryptMethod.token).Nodup) (p : Progress σ) :
    Moved (processedMethods host numeric image helper l p) p
      (l.foldl (decryptMethod host numeric image helper) p) := by
  induction l generalizing p with
  | nil => exact .quiet rfl (List.append_nil _).symm nofun
  | cons method rest ih =>
    obtain ⟨hfresh, hrest⟩ := List.nodup_cons.1 hl
    have hturn := decryptMethod_moved host numeric image helper p method
    have hsub := (processedMethods_sublist host numeric image helper rest
      (decryptMethod host numeric image helper p method)).map DecryptMethod.token
    have hmoved := ih hrest (decryptMethod host numeric image helper p method)
    unfold processedMethods
    by_cases hfound : liveFound host numeric image helper p method
    · rw [if_pos hfound] at hturn
      simp only [hfound, if_true]
      refine hturn.trans ?_ hmoved
      exact List.disjoint_left.2 fun t ht ht' =>
        hfresh (List.mem_singleton.1 ht ▸ hsub.subset ht')
    · rw [if_neg hfound] at hturn
      simp only [hfound]
      exact hturn.resume hmoved

theorem decryptHelpers_moved {found : List DecryptHelper}
    (hfound : ((found.flatMap DecryptHelper.methods).map DecryptMethod.token).Nodup)
    (p : Progress σ) :
    Moved (processedHelpers host numeric image found p) p
      (decryptHelpers host numeric image found p) := by
  induction found generalizing p with
  | nil => exact .quiet rfl (List.append_nil _).symm nofun
  | cons helper rest ih =>
    rw [List.flatMap_cons, List.map_append, List.nodup_append'] at hfound
    obtain ⟨hhelper, hrest, hdisjoint⟩ := hfound
    have hheard := Moved.heard p (host.findType image helper.runtimeName p.walk.oracle.host).state
      (host.findType image helper.runtimeName p.walk.oracle.host).log
    unfold decryptHelpers processedHelpers
    by_cases hlive : (host.findType image helper.runtimeName p.walk.oracle.host).value
    · simp only [hlive, if_true]
      refine hheard.resume (.trans ?_
        (foldl_decryptMethod_moved host numeric image helper hhelper _) (ih hrest _))
      intro t ht ht'
      exact hdisjoint (((processedMethods_sublist ..).map _).subset ht)
        (((processedHelpers_sublist ..).map _).subset ht')
    · simp only [hlive, Bool.false_eq_true, if_false]
      exact hheard.resume (.quiet rfl rfl
        (List.forall_mem_singleton.2 ⟨rfl, Bool.false_ne_true⟩))

/-- The ledger of a whole run. -/
theorem run_moved (host : Host σ) (data : ByteArray) (numeric : NumericOracle) {m : Module}
    (hmethods : (m.methods.map MethodDef.token).Nodup) (o : Oracle σ) :
    m.SameButBodies (run host data numeric m o).module ∧
      Ledger (processed host data numeric m o) m.methods
        (run host data numeric m o).module.methods
        (run host data numeric m o).journal.events := by
  unfold run
  simp only
  split
  case isTrue hempty =>
    have hnone : methodsFound m = [] := by
      rw [methodsFound, List.isEmpty_iff.1 hempty, List.flatMap_nil]
    have hprocessed := processed_sublist host data numeric m o
    rw [hnone, List.sublist_nil] at hprocessed
    rw [hprocessed]
    exact ⟨.refl m, .quiet m.methods nofun⟩
  case isFalse =>
    unfold processed
    simp only
    cases (host.load data o.host).value with
    | error e =>
      exact ⟨.refl m, .quiet m.methods
        (List.forall_mem_singleton.2 ⟨rfl, Bool.false_ne_true⟩)⟩
    | ok image =>
      obtain ⟨hshape, es, hevents, hledger⟩ := decryptHelpers_moved host numeric image
        (methodsFound_nodup hmethods)
        ⟨m, ⟨{ o with host := (host.load data o.host).state },
          ⟨[], (helpers m).2 ++ (host.load data o.host).log⟩⟩, 0⟩
      obtain rfl := hevents
      exact ⟨hshape, hledger⟩

/-- The events of a run tell of a change exactly if the module has changed: a call that was
rewritten does not come back. -/
theorem run_transformation_iff (host : Host σ) (data : ByteArray) (numeric : NumericOracle)
    {m : Module} (hmethods : (m.methods.map MethodDef.token).Nodup) (o : Oracle σ) :
    (∃ e ∈ (run host data numeric m o).journal.events, e.kind.isTransformation) ↔
      (run host data numeric m o).module ≠ m := by
  obtain ⟨hshape, hledger⟩ := run_moved host data numeric hmethods o
  constructor
  · rintro ⟨e, he, htransformation⟩ hsame
    rcases hledger.told e he with hquiet | ⟨c, -, d, hd, d', hd', i, htoken, -, hcall, htold⟩
    · exact hquiet.2 htransformation
    · rw [hsame] at hd'
      obtain rfl := List.inj_on_of_nodup_map hmethods hd' hd htoken
      generalize e.kind = kind at htold htransformation
      cases htold with
      | left => exact absurd htransformation Bool.false_ne_true
      | rewritten hrewritten => exact hrewritten hcall
  · intro hchanged
    by_contra hnone
    refine hchanged (hshape.eq_of_methods_eq (hledger.idle fun e he htransformation => ?_))
    exact hnone ⟨e, he, htransformation⟩

end Unmask.Decrypt
