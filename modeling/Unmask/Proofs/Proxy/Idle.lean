import Unmask.Proofs.Proxy.Turns

/-!
# Idle proxies

A proxy is idle in a module if there is nothing to be done about it: it is left alone, or no call of
its entry is left and, where types are to be taken out, a use of something nested in it keeps its
type. A run over a module reports no change exactly if every proxy in it is idle, and then the
module stays as it is.
-/

namespace Unmask.Proxy

variable {resolver : Resolver} {removeTypes : Bool} {m : Module}

/-- Nothing is to be done about the proxy. -/
def Visit.Idle (resolver : Resolver) (removeTypes : Bool) (v : Visit) : Prop :=
  (v.resolved? resolver).isSome →
    (∀ i ∈ v.module.slots, ¬ i.calls v.proxy.entry) ∧
      (removeTypes → (outsideReference? v.module v.proxy.typeToken).isSome)

instance (v : Visit) : Decidable (v.Idle resolver removeTypes) :=
  inferInstanceAs (Decidable (_ → _ ∧ _))

/-! ## Handling one proxy -/

theorem redirect_count (m : Module) (proxy : ProxyType) (op : OpCode) :
    (redirect m proxy op).count = m.slots.countP fun i => i.calls proxy.entry := by
  rw [← Module.countP_instructions]
  refine @replace_count_of_slots _ _ _ (fun _ i => i.calls proxy.entry) ?_ ?_ ?_ m []
  · exact fun _ _ _ _ => rfl
  · exact fun _ _ _ _ => rfl
  · intros
    rfl

/-- A proxy that is replaced counts as a change if a call was redirected or the type went. -/
theorem process_changed {v : Visit} {target : ResolvedMethod}
    (hres : v.resolved? resolver = some target)
    (hdeclared : (v.module.typeDef? v.proxy.typeToken).isSome) (removeTypes : Bool) :
    (process resolver removeTypes v.module v.proxy).changed =
      .ok (0 < v.module.slots.countP (fun i => i.calls v.proxy.entry) || removeTypes &&
        (outsideReference? (v.module.mapCode (v.redirect resolver)) v.proxy.typeToken).isNone) := by
  have hedit := Visit.module_redirected hres
  rw [process_resolved hres]
  cases removeTypes with
  | false => simp [redirect_count]
  | true =>
    have hkept : ((v.module.mapCode (v.redirect resolver)).typeDef? v.proxy.typeToken).isSome := by
      simpa using hdeclared
    simp [hedit, (removeProxy_spec hkept _ _).2, redirect_count]

theorem Visit.mapCode_redirect_of_not_calls {v : Visit}
    (h : ∀ i ∈ v.module.slots, ¬ i.calls v.proxy.entry) :
    v.module.mapCode (v.redirect resolver) = v.module := by
  apply Module.mapCode_eq_self
  intro i hi
  rcases v.redirect_cases resolver i with ⟨hstay, -⟩ | ⟨target, -, hcall, -⟩
  · exact hstay
  · exact absurd hcall (h i hi)

theorem process_changed_eq_false_iff (resolver : Resolver) (removeTypes : Bool) {v : Visit}
    (hdeclared : (v.module.typeDef? v.proxy.typeToken).isSome) :
    (process resolver removeTypes v.module v.proxy).changed = .ok false ↔
      v.Idle resolver removeTypes := by
  unfold Visit.Idle
  cases hres : v.resolved? resolver with
  | none =>
    obtain ⟨reason, hskip⟩ := process_unresolved hres removeTypes
    simp [hskip, skip]
  | some target =>
    rw [process_changed hres hdeclared]
    by_cases hcalls : ∀ i ∈ v.module.slots, ¬ i.calls v.proxy.entry
    · have hnone : v.module.slots.countP (fun i => i.calls v.proxy.entry) = 0 :=
        List.countP_eq_zero.2 hcalls
      rw [Visit.mapCode_redirect_of_not_calls hcalls, hnone]
      cases removeTypes with
      | false => simpa using hcalls
      | true => simpa [Option.isSome_iff_ne_none] using fun _ => hcalls
    · have hsome : 0 < v.module.slots.countP (fun i => i.calls v.proxy.entry) := by
        rw [Nat.pos_iff_ne_zero]
        exact fun hzero => hcalls (List.countP_eq_zero.1 hzero)
      constructor
      · intro h
        simp [hsome] at h
      · intro h
        exact absurd (h rfl).1 hcalls

/-- An idle proxy leaves the module as it is. -/
theorem Visit.Idle.after_eq {v : Visit} (h : v.Idle resolver removeTypes) :
    v.after resolver removeTypes = v.module := by
  cases hres : v.resolved? resolver with
  | none => exact Visit.after_eq_self hres removeTypes
  | some target =>
    obtain ⟨hcalls, hkept⟩ := h (by simp [hres])
    have hremoved : v.removed resolver removeTypes = [] := by
      unfold Visit.removed
      rw [Visit.mapCode_redirect_of_not_calls hcalls]
      cases removeTypes with
      | false => rfl
      | true => simp [Option.isSome_iff_ne_none.1 (hkept rfl)]
    rw [Visit.after, hremoved, Module.reduce_nil, Visit.mapCode_redirect_of_not_calls hcalls]

/-! ## A run without change -/

theorem map_or_eq_ok_false {x : Except Error Bool} {b : Bool}
    (h : x.map (b || ·) = .ok false) : b = false ∧ x = .ok false := by
  cases x with
  | error e => cases h
  | ok c =>
    have hor : (b || c) = false := Except.ok.inj h
    rw [Bool.or_eq_false_iff] at hor
    exact ⟨hor.1, by rw [hor.2]⟩

theorem processAll_meet_changed {t : Token} {proxy : ProxyType} (h : found? m t = some proxy)
    (rest : List Token) :
    (processAll resolver removeTypes (t :: rest) m).changed = .ok false ↔
      Visit.Idle resolver removeTypes ⟨m, proxy⟩ ∧
        (processAll resolver removeTypes rest
          (Visit.after resolver removeTypes ⟨m, proxy⟩)).changed = .ok false := by
  obtain ⟨-, changed, hstep, hchanged, -⟩ := @processAll_meet resolver removeTypes t m proxy h rest
  obtain ⟨rfl, ty, -, hty, -⟩ := found?_eq_some h
  have hidle := process_changed_eq_false_iff resolver removeTypes (v := ⟨m, proxy⟩) (by simp [hty])
  rw [hstep, Except.ok.injEq] at hidle
  rw [hchanged, ← hidle]
  constructor
  · exact map_or_eq_ok_false
  · rintro ⟨rfl, hrest⟩
    rw [hrest]
    rfl

/-- A run reports no change and makes none exactly if every proxy among the candidates is idle. -/
theorem processAll_unchanged_iff (resolver : Resolver) (removeTypes : Bool) (ts : List Token)
    (m : Module) :
    ((processAll resolver removeTypes ts m).module = m ∧
        (processAll resolver removeTypes ts m).changed = .ok false) ↔
      ∀ t ∈ ts, ∀ proxy ∈ found? m t, Visit.Idle resolver removeTypes ⟨m, proxy⟩ := by
  induction ts with
  | nil => simp [processAll]
  | cons t rest ih =>
    rw [List.forall_mem_cons, ← ih]
    cases h : found? m t with
    | none =>
      rw [(processAll_pass h rest).1, (processAll_pass h rest).2.1]
      simp
    | some proxy =>
      rw [(processAll_meet h rest).1, processAll_meet_changed h]
      -- an idle proxy leaves the rest of the run to the same module
      constructor
      · rintro ⟨hmodule, hidle, hrest⟩
        rw [Visit.Idle.after_eq hidle] at hmodule hrest
        exact ⟨fun p hp => Option.some.inj hp ▸ hidle, hmodule, hrest⟩
      · rintro ⟨hidle, hmodule, hrest⟩
        have hfirst : Visit.Idle resolver removeTypes ⟨m, proxy⟩ := hidle proxy rfl
        rw [Visit.Idle.after_eq hfirst]
        exact ⟨hmodule, hfirst, hrest⟩

/-- Where every proxy met is idle the module stays as it is. -/
theorem run_eq_self_of_idle (h : ∀ v ∈ met resolver removeTypes m, v.Idle resolver removeTypes) :
    run resolver removeTypes m = m := by
  unfold met at h
  unfold run
  generalize candidates m = ts at h
  induction ts, m using run_induction resolver removeTypes with
  | done m => rfl
  | pass t rest m hfound ih =>
    rw [visits_pass hfound] at h
    rw [(processAll_pass hfound rest).1]
    exact ih h
  | meet t rest m proxy hfound ih =>
    rw [visits_meet hfound, List.forall_mem_cons] at h
    obtain ⟨hidle, hrest⟩ := h
    rw [(processAll_meet hfound rest).1, ih hrest]
    exact hidle.after_eq

/-- A call of an entry that is met was there from the start, as a direct call is no call of an
entry. -/
theorem slot_of_calls (htable : ∀ d ∈ m.methods, d.token.isMethodDef) {v : Visit}
    (hv : v ∈ met resolver removeTypes m) {i : Instruction} (hi : i ∈ v.module.slots)
    (hcall : i.calls v.proxy.entry) : i ∈ m.slots := by
  obtain ⟨earlier, later, hsplit, hmodule, -⟩ := visits_split hv
  have hentries : ∀ w ∈ earlier, w.proxy.entry.isMethodDef := fun w hw =>
    met_entry_isMethodDef htable (hsplit ▸ List.mem_append_left (v :: later) hw)
  obtain ⟨d', hd', hcode⟩ := Module.mem_slots.1 hi
  rw [hmodule] at hd'
  obtain ⟨ty', hty', hmem⟩ := List.mem_flatMap.1 hd'
  obtain ⟨ty, hty, -, rfl⟩ := Module.mem_types_reduce.1 hty'
  obtain ⟨d, hd, rfl⟩ := List.mem_map.1 hmem
  rw [MethodDef.mapCode_code] at hcode
  obtain ⟨old, hold, rfl⟩ := Array.mem_map.1 hcode
  rcases redirectAll_exact hentries old with ⟨hsame, -⟩ | ⟨w, -, target, hres, -, hdirect⟩
  · rw [hsame]
    exact Module.mem_slots.2 ⟨d, List.mem_flatMap.2 ⟨ty, hty, hd⟩, hold⟩
  · rw [hdirect] at hcall
    exact absurd hcall (Visit.not_calls_directCall hres (met_entry_isMethodDef htable hv))

/-- A run leaves the module as it is exactly if every proxy it meets is idle: a call that was
redirected and a type that went do not come back. -/
theorem run_eq_self_iff (htable : ∀ d ∈ m.methods, d.token.isMethodDef) :
    run resolver removeTypes m = m ↔
      ∀ v ∈ met resolver removeTypes m, v.Idle resolver removeTypes := by
  refine ⟨fun hsame v hv hresolved => ?_, run_eq_self_of_idle⟩
  have hcalls : ∀ i ∈ v.module.slots, ¬ i.calls v.proxy.entry := by
    intro i hi hcall
    obtain ⟨d, hd, hcode⟩ := Module.mem_slots.1 (slot_of_calls htable hv hi hcall)
    rw [← hsame] at hd
    exact not_calls_replaced htable (List.mem_filter.2 ⟨hv, hresolved⟩) hd hcode hcall
  refine ⟨hcalls, fun hremove => ?_⟩
  by_contra hunused
  have hremoved : v.proxy.typeToken ∈ v.removed resolver removeTypes := by
    rw [Visit.removed, Visit.mapCode_redirect_of_not_calls hcalls, hremove, hresolved,
      Option.not_isSome_iff_eq_none.1 hunused, Module.typeAndNested_eq_cons]
    exact List.mem_cons_self
  obtain ⟨ty, hty, htoken, -⟩ := met_type hv
  have hpresent : v.proxy.typeToken ∈ (run resolver removeTypes m).types.map TypeDef.token := by
    rw [hsame, ← htoken]
    exact List.mem_map_of_mem hty
  rw [run_eq, Module.mem_tokens_reduce] at hpresent
  exact hpresent.2 (List.mem_flatMap.2 ⟨v, hv, hremoved⟩)

/-- A run reports no change exactly if every proxy it meets is idle. -/
theorem processAll_changed_eq_false_iff (ts : List Token) (m : Module) :
    (processAll resolver removeTypes ts m).changed = .ok false ↔
      ∀ v ∈ visits resolver removeTypes ts m, v.Idle resolver removeTypes := by
  induction ts, m using run_induction resolver removeTypes with
  | done m => exact iff_of_true rfl fun _ hv => absurd hv List.not_mem_nil
  | pass t rest m h ih => rw [(processAll_pass h rest).2.1, visits_pass h, ih]
  | meet t rest m proxy h ih =>
    rw [processAll_meet_changed h, visits_meet h, List.forall_mem_cons, ih]

/-- A run reports a change exactly if there is one. -/
theorem pass_changed {σ : Type} (htable : ∀ d ∈ m.methods, d.token.isMethodDef) (s : σ) :
    ((pass resolver removeTypes).run m s).changed =
      .ok (decide (run resolver removeTypes m ≠ m)) := by
  obtain ⟨changed, hchanged⟩ :=
    (processAll_spec resolver removeTypes (candidates m) m).2
  have hflag := @processAll_changed_eq_false_iff resolver removeTypes (candidates m) m
  rw [hchanged, Except.ok.injEq] at hflag
  have hsame : changed = false ↔ run resolver removeTypes m = m :=
    hflag.trans (run_eq_self_iff htable).symm
  show (processAll resolver removeTypes (candidates m) m).changed = _
  rw [hchanged, Except.ok.injEq, Bool.eq_iff_iff, decide_eq_true_eq, ne_eq, ← hsame,
    Bool.not_eq_false]

end Unmask.Proxy
