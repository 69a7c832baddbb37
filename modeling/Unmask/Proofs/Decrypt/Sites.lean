import Unmask.Proofs.Decrypt.Frame

/-!
# The sites of one body

A decrypt method is offered the slots of a body one after the other. It leaves one event for each of
its calls, in the order of the slots, and the event tells what became of the call. Calls of other
methods stay, and no call comes up that was not there before.
-/

namespace Unmask

/-- The slot that an event is about. -/
def Event.place? (e : Event) : Option (Token × Nat) :=
  match e.token, e.location with
  | some t, some i => some (t, i)
  | _, _ => none

theorem Event.place?_eq_some {e : Event} {t : Token} {i : Nat} :
    e.place? = some (t, i) ↔ e.token = some t ∧ e.location = some i := by
  unfold place?
  cases e.token <;> cases e.location <;> simp

namespace Decrypt

@[simp] theorem siteEvent_place? (kind : EventKind) (d : MethodDef) (i : Nat) (message : String) :
    (siteEvent kind ⟨d, i⟩ message).place? = some (d.token, i) := rfl

/-! ## Calls that stay -/

/-- No call comes up, and calls of methods other than those of `tokens` stay. -/
structure CallsKept (tokens : List Token) (before after : Array Instruction) : Prop where
  size : after.size = before.size
  old {i : Nat} {t : Token} (h : after[i]? = some (.call t)) : before[i]? = some (.call t)
  others {i : Nat} {t : Token} (ht : t ∉ tokens) (h : before[i]? = some (.call t)) :
    after[i]? = some (.call t)

namespace CallsKept

variable {tokens tokens' : List Token} {a b c : Array Instruction}

theorem refl (tokens : List Token) (a : Array Instruction) : CallsKept tokens a a :=
  ⟨rfl, id, fun _ => id⟩

theorem trans (h : CallsKept tokens a b) (h' : CallsKept tokens b c) : CallsKept tokens a c where
  size := h'.size.trans h.size
  old hc := h.old (h'.old hc)
  others ht ha := h'.others ht (h.others ht ha)

theorem mono (hsub : tokens ⊆ tokens') (h : CallsKept tokens a b) : CallsKept tokens' a b where
  size := h.size
  old := h.old
  others ht := h.others fun hmem => ht (hsub hmem)

theorem call_iff (h : CallsKept tokens a b) {t : Token} (ht : t ∉ tokens) {i : Nat} :
    b[i]? = some (.call t) ↔ a[i]? = some (.call t) :=
  ⟨h.old, h.others ht⟩

end CallsKept

/-! ## One slot -/

variable {method : DecryptMethod} {d : MethodDef} {before body next : Array Instruction} {i k : Nat}
  {es : EventLog}

theorem ne_call_of_constant {arg : Instruction} (h : arg.constant?.isSome) (t : Token) :
    arg ≠ .call t := by
  rintro rfl
  rw [Instruction.call, Instruction.constant?_directCall List.mem_cons_self] at h
  exact absurd h (by decide)

theorem not_constant_of_call {t : Token} (h : body[i]? = some (.call t)) :
    ¬ (body[i]?.bind Instruction.constant?).isSome := by
  intro hconst
  rw [h, Option.bind_some] at hconst
  exact ne_call_of_constant hconst t rfl

theorem ne_call_of_literal {kind : LiteralKind} {v : Value} {load : Instruction}
    (h : kind.literal v = .ok load) (t : Token) : load ≠ .call t := by
  rintro rfl
  exact LiteralKind.literal_not_isCall h rfl

namespace SlotOutcome

/-- Later slots are left alone. -/
theorem ahead (h : SlotOutcome method d body i next es) (hk : i < k) : next[k]? = body[k]? := by
  cases h with
  | passed | failed => rfl
  | @decrypted n arg load v hslot harg hconst hload message =>
    have hne : k ≠ n + 1 ∧ k ≠ n := by omega
    simp [getElem?_decrypt (Array.getElem?_eq_some_iff.1 hslot).1, hne]

/-- The calls in other slots stay, whatever they call. -/
theorem call_iff (h : SlotOutcome method d body i next es) (hk : k ≠ i) {t : Token} :
    next[k]? = some (.call t) ↔ body[k]? = some (.call t) := by
  cases h with
  | passed | failed => exact Iff.rfl
  | @decrypted n arg load v hslot harg hconst hload message =>
    rw [getElem?_decrypt (Array.getElem?_eq_some_iff.1 hslot).1, if_neg hk]
    split
    · rename_i hn
      rw [hn, harg]
      simp [nop_ne_call, ne_call_of_constant hconst t]
    · exact Iff.rfl

theorem kept (h : SlotOutcome method d body i next es) :
    CallsKept [method.token] body next := by
  have hother : ∀ k t, k ≠ i → (next[k]? = some (.call t) ↔ body[k]? = some (.call t)) :=
    fun k t hk => h.call_iff hk
  cases h with
  | passed | failed => exact .refl _ _
  | @decrypted n arg load v hslot harg hconst hload message =>
    have hlast : ((body.setIfInBounds n .nop).setIfInBounds (n + 1) load)[n + 1]? = some load := by
      simp [getElem?_decrypt (Array.getElem?_eq_some_iff.1 hslot).1]
    refine ⟨by simp, fun {k t} hcall => ?_, fun {k t} ht hcall => ?_⟩
    · by_cases hk : k = n + 1
      · rw [hk, hlast] at hcall
        exact absurd (Option.some.inj hcall) (ne_call_of_literal hload t)
      · exact (hother k t hk).1 hcall
    · by_cases hk : k = n + 1
      · rw [hk, hslot] at hcall
        have htoken : method.token = t := call_injective (Option.some.inj hcall)
        exact absurd (List.mem_singleton.2 htoken.symm) ht
      · exact (hother k t hk).2 hcall

end SlotOutcome

/-! ## One body -/

/-- What became of a call of `method` in slot `i`, as an event of this kind tells it. -/
inductive Told (method : DecryptMethod) (after : Array Instruction) (i : Nat) : EventKind → Prop
  | left (h : after[i]? = some (.call method.token)) : Told method after i .siteFailed
  | rewritten (h : after[i]? ≠ some (.call method.token)) :
      Told method after i method.kind.eventKind

/-- An edit that keeps a call and brings none up leaves what was told true. -/
theorem Told.of_call_iff {kind : EventKind} (h : Told method body i kind)
    (hcall : next[i]? = some (.call method.token) ↔ body[i]? = some (.call method.token)) :
    Told method next i kind := by
  cases h with
  | left h => exact .left (hcall.2 h)
  | rewritten h => exact .rewritten fun hnext => h (hcall.1 hnext)

/-- The slots below `n` that call `t`. -/
def callsBelow (t : Token) (body : Array Instruction) (n : Nat) : List Nat :=
  (List.range n).filter fun i => body[i]? = some (.call t)

theorem callsBelow_succ (t : Token) (body : Array Instruction) (n : Nat) :
    callsBelow t body (n + 1) =
      callsBelow t body n ++ if body[n]? = some (.call t) then [n] else [] := by
  rw [callsBelow, List.range_succ, List.filter_append, callsBelow]
  congr 1
  by_cases h : body[n]? = some (.call t)
  · simp [h]
  · simp [h]

/-- The first `n` slots of a body of `d` have been offered to the decrypt method, which left the
events `es`: one for each call of it, in order, and without a decryption nothing has changed. -/
structure Scanned (method : DecryptMethod) (d : MethodDef) (before after : Array Instruction)
    (n : Nat) (es : EventLog) : Prop where
  kept : CallsKept [method.token] before after
  ahead {i : Nat} (h : n ≤ i) : after[i]? = before[i]?
  places : es.filterMap Event.place? =
    (callsBelow method.token before n).map fun i => (d.token, i)
  told : ∀ e ∈ es, ∃ i < n, e.place? = some (d.token, i) ∧
    before[i]? = some (.call method.token) ∧ Told method after i e.kind
  idle (h : ∀ e ∈ es, ¬ e.kind.isTransformation) : after = before

namespace Scanned

theorem start (method : DecryptMethod) (d : MethodDef) (before : Array Instruction) :
    Scanned method d before before 0 [] where
  kept := .refl _ before
  ahead _ := rfl
  places := rfl
  told := nofun
  idle _ := rfl

/-- What was told of earlier slots stays true, as the call in slot `n` is the only one that an offer
of slot `n` takes away. -/
theorem told_step {n : Nat} {es' : EventLog} (h : Scanned method d before body n es)
    (hslot : SlotOutcome method d body n next es') {e : Event} (he : e ∈ es) :
    ∃ i < n + 1, e.place? = some (d.token, i) ∧ before[i]? = some (.call method.token) ∧
      Told method next i e.kind := by
  obtain ⟨i, hi, hplace, hcall, htold⟩ := h.told e he
  exact ⟨i, by omega, hplace, hcall, htold.of_call_iff (hslot.call_iff (by omega))⟩

theorem step {n : Nat} {es' : EventLog} (h : Scanned method d before body n es)
    (hslot : SlotOutcome method d body n next es') :
    Scanned method d before next (n + 1) (es ++ es') := by
  have hcurrent : body[n]? = before[n]? := h.ahead n.le_refl
  refine ⟨h.kept.trans hslot.kept, fun hi => ?_, ?_, ?_, ?_⟩
  · exact (hslot.ahead hi).trans (h.ahead (by omega))
  · rw [List.filterMap_append, h.places, callsBelow_succ, List.map_append, ← hcurrent]
    congr 1
    cases hslot with
    | passed hcall => simp [hcall]
    | failed hcall | decrypted hcall => simp [hcall]
  · intro e he
    rcases List.mem_append.1 he with hold | hnew
    · exact h.told_step hslot hold
    cases hslot with
    | passed => exact absurd hnew List.not_mem_nil
    | failed hcall message =>
      obtain rfl := List.mem_singleton.1 hnew
      exact ⟨n, by omega, rfl, hcurrent.symm.trans hcall, .left hcall⟩
    | @decrypted k arg load v hcall harg hconst hload message =>
      obtain rfl := List.mem_singleton.1 hnew
      refine ⟨k + 1, by omega, rfl, hcurrent.symm.trans hcall, .rewritten ?_⟩
      rw [getElem?_decrypt (Array.getElem?_eq_some_iff.1 hcall).1, if_pos rfl]
      exact fun h => ne_call_of_literal hload _ (Option.some.inj h)
  · intro hidle
    have hbody := h.idle fun e he => hidle e (List.mem_append_left es' he)
    cases hslot with
    | passed | failed => exact hbody
    | decrypted =>
      exact absurd (eventKind_isTransformation method.kind)
        (hidle _ (List.mem_append_right es (List.mem_singleton.2 rfl)))

end Scanned

/-- The walk over the first `n` slots of a body. -/
theorem foldl_patchSlot_scanned {σ : Type} (host : Host σ) (method : DecryptMethod) (live : Live)
    (d : MethodDef) (scan : Scan (Walk σ)) (n : Nat) :
    let done := (List.range n).foldl (patchSlot (patchSite host method live) d) scan
    ∃ es, done.state.journal.events = scan.state.journal.events ++ es ∧
      Scanned method d scan.body done.body n es := by
  induction n with
  | zero => exact ⟨[], (List.append_nil _).symm, .start method d scan.body⟩
  | succ n ih =>
    obtain ⟨es, hevents, hscanned⟩ := ih
    obtain ⟨es', hevents', hslot, -⟩ := patchSlot_outcome host method live d
      ((List.range n).foldl (patchSlot (patchSite host method live) d) scan) n
    simp only [List.range_succ, List.foldl_append, List.foldl_cons, List.foldl_nil]
    exact ⟨es ++ es', by rw [hevents', hevents, List.append_assoc], hscanned.step hslot⟩

end Decrypt

end Unmask
