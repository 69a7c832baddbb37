import Unmask.Proofs.Decrypt.Ledger

/-!
# Every decrypt site is accounted for

With distinct method tokens a call is about one method only, so the ledger of a run has one event
for each call of a processed decrypt method, and no other event is about a slot.
-/

namespace Unmask.Decrypt

variable {σ : Type}

/-! ## Places are distinct -/

theorem eq_of_call {c c' : DecryptMethod} {slot : Option Instruction}
    (h : slot = some (.call c.token)) (h' : slot = some (.call c'.token)) : c.token = c'.token :=
  call_injective (Option.some.inj (h.symm.trans h'))

theorem callPlaces_nodup (t : Token) (d : MethodDef) : (callPlaces t d).Nodup := by
  refine List.Nodup.map (fun i j h => (Prod.mk.inj h).2) ?_
  exact List.nodup_range.filter _

/-- A slot is a call of one decrypt method at most, in one method. -/
theorem places_nodup {methods : List DecryptMethod} {ds : List MethodDef}
    (hmethods : (methods.map DecryptMethod.token).Nodup) (hds : (ds.map MethodDef.token).Nodup) :
    (methods.flatMap fun c => ds.flatMap (callPlaces c.token)).Nodup := by
  rw [List.nodup_flatMap]
  constructor
  · intro c _
    refine List.nodup_flatMap.2 ⟨fun d _ => callPlaces_nodup c.token d, ?_⟩
    refine (List.pairwise_map.1 hds).imp fun {d d'} hne place hplace hplace' => hne ?_
    exact (mem_callPlaces.1 hplace).1.trans (mem_callPlaces.1 hplace').1.symm
  · refine (List.pairwise_map.1 hmethods).imp fun {c c'} hne place hplace hplace' => hne ?_
    obtain ⟨d, hd, hcall⟩ := List.mem_flatMap.1 hplace
    obtain ⟨d', hd', hcall'⟩ := List.mem_flatMap.1 hplace'
    obtain ⟨htoken, hslot⟩ := mem_callPlaces.1 hcall
    obtain ⟨htoken', hslot'⟩ := mem_callPlaces.1 hcall'
    obtain rfl := List.inj_on_of_nodup_map hds hd hd' (htoken.trans htoken'.symm)
    exact eq_of_call hslot hslot'

/-- A slot that occurs once among those that events are about has one event. -/
theorem exists_event {events : EventLog} {t : Token} {i : Nat}
    (hnodup : (events.filterMap Event.place?).Nodup)
    (hmem : (t, i) ∈ events.filterMap Event.place?) :
    ∃ e ∈ events, e.place? = some (t, i) ∧
      events.filter (fun e => e.token = some t ∧ e.location = some i) = [e] := by
  have hone : (events.filter fun e => e.token = some t ∧ e.location = some i).length = 1 := by
    rw [← List.countP_eq_length_filter, ← List.count_eq_one_of_mem hnodup hmem,
      List.count_filterMap]
    refine List.countP_congr fun e _ => ?_
    simp [Event.place?_eq_some]
  obtain ⟨e, he⟩ := List.length_eq_one_iff.1 hone
  have hmem : e ∈ events.filter fun e => e.token = some t ∧ e.location = some i := by
    rw [he]
    exact List.mem_singleton.2 rfl
  obtain ⟨hin, hplace⟩ := List.mem_filter.1 hmem
  exact ⟨e, hin, Event.place?_eq_some.2 (by simpa using hplace), he⟩

/-! ## Accounts -/

/-- The events of a run account for the calls of `methods`, those that it processed. -/
structure Accounted (methods : List DecryptMethod) (before after : Module) (events : EventLog) :
    Prop where
  tokens : after.methods.map MethodDef.token = before.methods.map MethodDef.token
  /-- A call has exactly one event, which tells whether it was rewritten. -/
  once : ∀ c ∈ methods, ∀ d ∈ before.methods, ∀ i, d.code[i]? = some (.call c.token) →
    ∃ d' ∈ after.methods, d'.token = d.token ∧
      ∃ e, events.filter (fun e => e.token = some d.token ∧ e.location = some i) = [e] ∧
        (d'.code[i]? ≠ d.code[i]? ∧ e.kind = c.kind.eventKind ∨
          d'.code[i]? = d.code[i]? ∧ e.kind = .siteFailed)
  /-- No other event is about a slot. -/
  located : ∀ e ∈ events, e.location.isSome → ∃ c ∈ methods, ∃ d ∈ before.methods, ∃ i,
    e.token = some d.token ∧ e.location = some i ∧ d.code[i]? = some (.call c.token)
  /-- The calls of methods that are not processed stay, without an event. -/
  skipped : ∀ c ∈ methodsFound before, c ∉ methods → ∀ d ∈ before.methods, ∀ i,
    d.code[i]? = some (.call c.token) →
      (∃ d' ∈ after.methods, d'.token = d.token ∧ d'.code[i]? = d.code[i]?) ∧
        ∀ e ∈ events, ¬ (e.token = some d.token ∧ e.location = some i)

namespace Ledger

variable {methods : List DecryptMethod} {a b : List MethodDef} {es : EventLog}

/-- An event about a call tells what became of that very call. -/
theorem told_of_place (h : Ledger methods a b es) (ha : (a.map MethodDef.token).Nodup) {e : Event}
    (he : e ∈ es) {d : MethodDef} (hd : d ∈ a) {i : Nat} (hplace : e.place? = some (d.token, i)) :
    ∃ c ∈ methods, ∃ d' ∈ b, d'.token = d.token ∧ d.code[i]? = some (.call c.token) ∧
      Told c d'.code i e.kind := by
  rcases h.told e he with hquiet | ⟨c, hc, u, hu, d', hd', j, htoken, hplace', hcall, htold⟩
  · exact absurd ((Event.place?_eq_some.1 hplace).2.symm.trans hquiet.1) nofun
  · obtain ⟨hsame, rfl⟩ := Prod.mk.inj (Option.some.inj (hplace'.symm.trans hplace))
    obtain rfl := List.inj_on_of_nodup_map ha hu hd hsame
    exact ⟨c, hc, d', hd', htoken, hcall, htold⟩

end Ledger

/-- Every call of a decrypt method that a run processes has exactly one event, of its kind if the
call was rewritten and of a failure if it was left; no other event is about a slot; calls of decrypt
methods that are not processed stay; and the slot before a rewritten one exists. -/
theorem run_accounted (host : Host σ) (data : ByteArray) (numeric : NumericOracle) {m : Module}
    (hmethods : (m.methods.map MethodDef.token).Nodup) (o : Oracle σ) :
    let done := run host data numeric m o
    Accounted (processed host data numeric m o) m done.module done.journal.events ∧
      ∀ method live site walk, (patchSite host method live site walk).1.isSome →
        0 < site.index := by
  intro done
  obtain ⟨hshape, hledger⟩ := run_moved host data numeric hmethods o
  have hfound := methodsFound_nodup hmethods
  have hsub := processed_sublist host data numeric m o
  have hprocessed := hfound.sublist (hsub.map DecryptMethod.token)
  refine ⟨⟨hshape.methodTokens_eq, ?once, ?located, ?skipped⟩, ?index⟩
  case once =>
    intro c hc d hd i hcall
    have hplaces := places_nodup hprocessed hmethods
    rw [← hledger.places] at hplaces
    have hmem : (d.token, i) ∈ done.journal.events.filterMap Event.place? := by
      rw [hledger.places]
      exact List.mem_flatMap.2 ⟨c, hc, List.mem_flatMap.2 ⟨d, hd, mem_callPlaces.2 ⟨rfl, hcall⟩⟩⟩
    obtain ⟨e, he, hplace, honly⟩ := exists_event hplaces hmem
    obtain ⟨c', hc', d', hd', htoken, hcall', htold⟩ := hledger.told_of_place hmethods he hd hplace
    obtain rfl := List.inj_on_of_nodup_map hprocessed hc' hc (eq_of_call hcall' hcall)
    refine ⟨d', hd', htoken, e, honly, ?_⟩
    rw [hcall]
    generalize e.kind = kind at htold
    cases htold with
    | left hleft => exact .inr ⟨hleft, rfl⟩
    | rewritten hrewritten => exact .inl ⟨hrewritten, rfl⟩
  case located =>
    intro e he hlocation
    rcases hledger.told e he with hquiet | ⟨c, hc, d, hd, d', -, i, -, hplace, hcall, -⟩
    · rw [hquiet.1] at hlocation
      exact absurd hlocation Bool.false_ne_true
    · obtain ⟨htoken, hindex⟩ := Event.place?_eq_some.1 hplace
      exact ⟨c, hc, d, hd, i, htoken, hindex, hcall⟩
  case skipped =>
    intro c hc hskipped d hd i hcall
    have hother : c.token ∉ (processed host data numeric m o).map DecryptMethod.token := by
      intro hmem
      obtain ⟨c', hc', htoken⟩ := List.mem_map.1 hmem
      exact hskipped (List.inj_on_of_nodup_map hfound (hsub.subset hc') hc htoken ▸ hc')
    constructor
    · obtain ⟨d', hd', htoken, hkept⟩ := hledger.exists_after hd
      exact ⟨d', hd', htoken, ((hkept.call_iff hother).2 hcall).trans hcall.symm⟩
    · intro e he hplace
      obtain ⟨c', hc', d', hd', -, hcall', -⟩ :=
        hledger.told_of_place hmethods he hd (Event.place?_eq_some.2 hplace)
      exact hother (eq_of_call hcall hcall' ▸ List.mem_map_of_mem hc')
  case index =>
    intro method live site walk hpatched
    obtain ⟨es, -, houtcome⟩ := patchSite_outcome host method live site walk
    generalize (patchSite host method live site walk).1 = edits at hpatched houtcome
    cases houtcome with
    | passed | failed => cases hpatched
    | decrypted hsite harg hload =>
      refine Nat.pos_of_ne_zero fun hzero => ?_
      unfold Site.previous? at harg
      rw [hzero] at harg
      cases harg

/-- Two decrypt calls in a row, the second one on the result of the first, and a third one that the
host does not answer. -/
theorem run_accounted_numberModule :
    let m := numberModule #[⟨.ldcI4, .immediate (.int32 7)⟩, .call ⟨0x06000002⟩,
      .call ⟨0x06000002⟩, .call ⟨0x06000002⟩]
    let done := run numberHost.host .empty .typeMatched m { host := [] }
    let get : DecryptMethod := ⟨.int32, ⟨0x06000002⟩, "Get"⟩
    (m.methods.map MethodDef.token).Nodup ∧
      done.journal.events.map (fun e => (e.place?, e.kind)) =
        [(some (⟨0x06000003⟩, 1), .constantDecrypted), (some (⟨0x06000003⟩, 2), .constantDecrypted),
          (some (⟨0x06000003⟩, 3), .siteFailed)] ∧
      Accounted [get] m done.module done.journal.events := by
  intro m done get
  have hmethods : (m.methods.map MethodDef.token).Nodup := by decide
  have hprocessed : processed numberHost.host .empty .typeMatched m { host := [] } = [get] := by
    decide +kernel
  have haccounted := (run_accounted numberHost.host .empty .typeMatched hmethods { host := [] }).1
  rw [hprocessed] at haccounted
  exact ⟨hmethods, by decide +kernel, haccounted⟩

end Unmask.Decrypt
