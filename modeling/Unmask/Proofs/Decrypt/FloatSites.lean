import Unmask.Proofs.Decrypt.Inquiry
import Unmask.Proofs.Decrypt.Steady

/-!
# Floating point sites and the `int64` method

Under `int64Compat` the `int64` method of a helper answers for its floating point methods. Unless it
answers with a floating point value, their turns have no literal for any constant, and the run takes
the turns of the other methods only. Those decrypt what they decrypt under `typeMatched`: a floating
point turn uses up a constant and the call after it, and what it leaves in their place is no
constant.
-/

namespace Unmask

/-- The helper without its floating point methods. -/
def DecryptHelper.withoutFloats (helper : DecryptHelper) : DecryptHelper :=
  { helper with methods := helper.methods.filter fun method => !method.kind.isFloat }

namespace Decrypt

variable {σ : Type} {host : Host σ} {data : ByteArray} {numeric : NumericOracle} {image : ImageId}
  {helper : DecryptHelper} {m : Module} {ts : List Turn} {s : σ}

/-- In no image of the data does the live form of the method answer with a floating point value. -/
def NeverFloat (host : Host σ) (data : ByteArray) (helper : DecryptHelper)
    (method : DecryptMethod) : Prop :=
  ∀ image s, host.Serves data image s → ∀ arg v,
    (host.invoke image helper.runtimeName method.name [.int32 arg] s).value = .ok v →
      ∀ kind ∈ v.kind?, kind.isFloat = false

/-! ## Turns that decrypt nothing -/

/-- Whether the turn is that of a floating point method. -/
def Turn.isFloat (t : Turn) : Bool := t.method.kind.isFloat

theorem Turn.run_of_idle {t : Turn} (h : ∀ arg, t.literal? arg = none)
    (body : Array Instruction) : t.run body = body := by
  refine run_eq_self_iff.2 fun i => ?_
  cases i with
  | zero => rfl
  | succ n =>
    rw [load?]
    split
    · exact Option.bind_eq_none_iff.2 fun arg _ => h arg
    · rfl

theorem runTurns_flatMap_congr {α : Type} {l : List α} {f g : α → List Turn}
    (h : ∀ a ∈ l, ∀ body, runTurns (f a) body = runTurns (g a) body) (body : Array Instruction) :
    runTurns (l.flatMap f) body = runTurns (l.flatMap g) body := by
  induction l generalizing body with
  | nil => rfl
  | cons a rest ih =>
    rw [List.flatMap_cons, List.flatMap_cons, runTurns_append, runTurns_append,
      h a List.mem_cons_self, ih fun b hb => h b (List.mem_cons_of_mem a hb)]

/-- The answer of an `int64` method is no literal of a floating point method. -/
theorem literal?_of_neverFloat {method oracle : DecryptMethod}
    (hnever : NeverFloat host data helper oracle) (hs : host.Serves data image s)
    (hfloat : method.kind.isFloat) (arg : Int32) :
    (liveTurn host image helper s method oracle).literal? arg = none := by
  refine Option.bind_eq_none_iff.2 fun v hv => ?_
  show (method.kind.literal v).toOption = none
  cases hliteral : method.kind.literal v with
  | error e => rfl
  | ok load =>
    have hkind := hnever image s hs arg v (toOption_eq_some.1 hv) _
      (LiteralKind.literal_eq_ok hliteral).1
    rw [hkind] at hfloat
    cases hfloat

/-- The turns of one method under both settings. -/
theorem runTurns_turnOf?
    (hnever : ∀ oracle ∈ helper.methods, oracle.kind = .int64 → NeverFloat host data helper oracle)
    (hs : host.Serves data image s) (method : DecryptMethod) (body : Array Instruction) :
    runTurns (turnOf? host .int64Compat image helper s method).toList body =
      runTurns ((turnOf? host .typeMatched image helper s method).toList.filter fun t =>
        !t.isFloat) body := by
  by_cases hfloat : method.kind.isFloat
  · have hmatched : (turnOf? host .typeMatched image helper s method).toList.filter
        (fun t => !t.isFloat) = [] := by
      refine List.filter_eq_nil_iff.2 fun t ht => ?_
      simp [Turn.isFloat, turnOf?_method (Option.mem_toList.1 ht), hfloat]
    rw [hmatched]
    cases hturn : turnOf? host .int64Compat image helper s method with
    | none => rfl
    | some t =>
      obtain ⟨oracle, horacle, hlive⟩ := Option.bind_eq_some_iff.1 hturn
      have hmethodFor : helper.methodFor? .int64 = some oracle := by
        simpa [oracleFor?, hfloat] using horacle
      have hkind : oracle.kind = .int64 := by simpa using List.find?_some hmethodFor
      have hidle : ∀ arg, t.literal? arg = none := by
        split at hlive
        · rw [← Option.some.inj hlive]
          exact literal?_of_neverFloat
            (hnever oracle (List.mem_of_find?_eq_some hmethodFor) hkind) hs hfloat
        · cases hlive
      exact t.run_of_idle hidle body
  · have hsame : turnOf? host .int64Compat image helper s method =
        turnOf? host .typeMatched image helper s method := by
      simp [turnOf?, oracleFor?, hfloat]
    have hall : (turnOf? host .typeMatched image helper s method).toList.filter
        (fun t => !t.isFloat) = (turnOf? host .typeMatched image helper s method).toList := by
      refine List.filter_eq_self.2 fun t ht => ?_
      simp [Turn.isFloat, turnOf?_method (Option.mem_toList.1 ht), hfloat]
    rw [hsame, hall]

/-- Under `int64Compat` a run takes the turns that are not those of floating point methods. -/
theorem runTurns_int64Compat
    (hnever : ∀ helper ∈ (helpers m).1, ∀ oracle ∈ helper.methods, oracle.kind = .int64 →
      NeverFloat host data helper oracle) (s : σ) (body : Array Instruction) :
    runTurns (turns host data .int64Compat m s) body =
      runTurns ((turns host data .typeMatched m s).filter fun t => !t.isFloat) body := by
  unfold turns turnsFor
  simp only
  cases hload : (host.load data s).value with
  | error e => rfl
  | ok image =>
    simp only [List.filter_flatMap]
    refine runTurns_flatMap_congr (fun helper hhelper body => ?_) body
    have hfound : helper ∈ (helpers m).1 := (List.takeWhile_sublist _).subset hhelper
    rw [List.filterMap_eq_flatMap_toList, List.filterMap_eq_flatMap_toList, List.filter_flatMap]
    exact runTurns_flatMap_congr (fun method _ body =>
      runTurns_turnOf? (hnever helper hfound) (.load hload) method body) body

/-! ## The pass without floating point methods -/

theorem turnsOf_withoutFloats (helper : DecryptHelper) :
    helper.withoutFloats.methods.filterMap
        (turnOf? host .typeMatched image helper.withoutFloats s) =
      (helper.methods.filterMap (turnOf? host .typeMatched image helper s)).filter
        fun t => !t.isFloat := by
  show (helper.methods.filter fun method => !method.kind.isFloat).filterMap
    (turnOf? host .typeMatched image helper s) = _
  rw [List.filterMap_filter, List.filter_filterMap]
  congr 1
  funext method
  cases hturn : turnOf? host .typeMatched image helper s method with
  | none => simp
  | some t => simp [Option.filter, Turn.isFloat, turnOf?_method hturn]

theorem turnsFor_withoutFloats (found : List DecryptHelper) :
    turnsFor host data .typeMatched (found.map DecryptHelper.withoutFloats) s =
      (turnsFor host data .typeMatched found s).filter fun t => !t.isFloat := by
  unfold turnsFor
  simp only
  cases (host.load data s).value with
  | error e => rfl
  | ok image =>
    simp only [List.takeWhile_map, List.flatMap_map, List.filter_flatMap, turnsOf_withoutFloats]
    rfl

/-- Without its floating point methods a helper of a module has decrypt methods of the module. -/
theorem found_withoutFloats : ∀ helper ∈ (helpers m).1.map DecryptHelper.withoutFloats,
    ∀ method ∈ helper.methods, Found [m] helper.runtimeName method := by
  intro helper' hhelper' method hmethod
  obtain ⟨helper, hhelper, rfl⟩ := List.mem_map.1 hhelper'
  exact found_of_mem (List.mem_singleton.2 rfl) helper hhelper method (List.mem_filter.1 hmethod).1

/-- The pass without the floating point methods takes the turns of the others. -/
theorem runFor_withoutFloats_module (hsteady : host.Steady data)
    (hmethods : (m.methods.map MethodDef.token).Nodup) (s : σ) :
    (runFor host data .typeMatched ((helpers m).1.map DecryptHelper.withoutFloats) (helpers m).2 m
        { host := s }).module =
      m.mapBodies (runTurns ((turns host data .typeMatched m s).filter fun t => !t.isFloat)) := by
  rw [runFor_module hsteady .typeMatched hmethods found_withoutFloats, turnsFor_withoutFloats,
    turns]

/-! ## Bodies that differ in floating point sites -/

/-- The floating point site in the slots `n` and `n + 1` is still there in one body, and decrypted
in the other. -/
def FloatDecrypted (methods : List DecryptMethod) (left done : Array Instruction) (n : Nat) :
    Prop :=
  ∃ method ∈ methods, method.kind.isFloat ∧ left[n + 1]? = some (.call method.token) ∧
    (left[n]?.bind Instruction.constant?).isSome ∧ done[n]? = some .nop ∧
    ∃ v load, method.kind.literal v = .ok load ∧ done[n + 1]? = some load

/-- The bodies are the same but for floating point sites that are decrypted in the second one. -/
structure SameButFloats (methods : List DecryptMethod) (left done : Array Instruction) : Prop where
  size : done.size = left.size
  slots : ∀ k, done[k]? = left[k]? ∨ FloatDecrypted methods left done k ∨
    ∃ n, k = n + 1 ∧ FloatDecrypted methods left done n

variable {methods : List DecryptMethod} {left done left' done' : Array Instruction} {k n : Nat}
  {x : Token}

namespace FloatDecrypted

theorem congr (h : FloatDecrypted methods left done n) (hleft : left'[n]? = left[n]?)
    (hleft' : left'[n + 1]? = left[n + 1]?) (hdone : done'[n]? = done[n]?)
    (hdone' : done'[n + 1]? = done[n + 1]?) : FloatDecrypted methods left' done' n := by
  unfold FloatDecrypted
  rwa [hleft, hleft', hdone, hdone']

/-- What a floating point site leaves is no constant. -/
theorem not_constant (h : FloatDecrypted methods left done n) :
    ¬ (done[n]?.bind Instruction.constant?).isSome ∧
      ¬ (done[n + 1]?.bind Instruction.constant?).isSome := by
  obtain ⟨method, -, hfloat, -, -, hnop, v, load, hload, hslot⟩ := h
  rw [hnop, hslot]
  refine ⟨by decide, fun hconst => ?_⟩
  rw [LiteralKind.kind_of_constant hload hconst] at hfloat
  cases hfloat

theorem not_call (h : FloatDecrypted methods left done n) (x : Token) :
    done[n]? ≠ some (.call x) ∧ done[n + 1]? ≠ some (.call x) := by
  obtain ⟨method, -, -, -, -, hnop, v, load, hload, hslot⟩ := h
  rw [hnop, hslot]
  exact ⟨fun heq => nop_ne_call x (Option.some.inj heq),
    fun heq => ne_call_of_literal hload x (Option.some.inj heq)⟩

/-- It is apart from a call with its constant. -/
theorem apart {j : Nat} (h : FloatDecrypted methods left done j)
    (hcall : done[n + 1]? = some (.call x))
    (hconst : (done[n]?.bind Instruction.constant?).isSome) :
    j ≠ n ∧ j + 1 ≠ n ∧ j ≠ n + 1 := by
  refine ⟨?_, ?_, ?_⟩
  · rintro rfl
    exact h.not_constant.1 hconst
  · rintro rfl
    exact h.not_constant.2 hconst
  · rintro rfl
    exact (h.not_call x).1 hcall

end FloatDecrypted

namespace SameButFloats

theorem refl (methods : List DecryptMethod) (body : Array Instruction) :
    SameButFloats methods body body := ⟨rfl, fun _ => .inl rfl⟩

/-- The constants of the second body are those of the first. -/
theorem constant (h : SameButFloats methods left done)
    (hconst : (done[k]?.bind Instruction.constant?).isSome) : done[k]? = left[k]? := by
  rcases h.slots k with hsame | hsite | ⟨n, rfl, hsite⟩
  · exact hsame
  · exact absurd hconst hsite.not_constant.1
  · exact absurd hconst hsite.not_constant.2

/-- So are its calls. -/
theorem call (h : SameButFloats methods left done) (hcall : done[k]? = some (.call x)) :
    left[k]? = some (.call x) := by
  rcases h.slots k with hsame | hsite | ⟨n, rfl, hsite⟩
  · exact hsame.symm.trans hcall
  · exact absurd hcall (hsite.not_call x).1
  · exact absurd hcall (hsite.not_call x).2

/-- The other calls are still there. -/
theorem call_iff (h : SameButFloats methods left done)
    (hx : ∀ method ∈ methods, method.kind.isFloat → method.token ≠ x) :
    left[k]? = some (.call x) ↔ done[k]? = some (.call x) := by
  refine ⟨fun hcall => ?_, h.call⟩
  rcases h.slots k with hsame | ⟨method, -, -, -, hconst, -⟩ |
    ⟨n, rfl, method, hmethod, hfloat, hother, -⟩
  · exact hsame.trans hcall
  · exact absurd hconst (not_constant_of_call hcall)
  · have hsame := call_injective (Option.some.inj (hother.symm.trans hcall))
    exact absurd hsame (hx method hmethod hfloat)

/-- Before one of the other calls both bodies load the same constant, if any. -/
theorem argument (h : SameButFloats methods left done)
    (hx : ∀ method ∈ methods, method.kind.isFloat → method.token ≠ x)
    (hcall : left[n + 1]? = some (.call x)) :
    done[n]?.bind Instruction.constant? = left[n]?.bind Instruction.constant? := by
  rcases h.slots n with hsame | ⟨method, hmethod, hfloat, hother, -⟩ | ⟨j, rfl, hsite⟩
  · rw [hsame]
  · have hsame := call_injective (Option.some.inj (hother.symm.trans hcall))
    exact absurd hsame (hx method hmethod hfloat)
  · have hdone := Option.not_isSome_iff_eq_none.1 hsite.not_constant.2
    obtain ⟨method, -, -, hother, -⟩ := hsite
    rw [hdone, hother]
    rfl

/-- A turn of one of the other methods decrypts the same in both bodies. -/
theorem load?_eq (h : SameButFloats methods left done) {t : Turn}
    (ht : ∀ method ∈ methods, method.kind.isFloat → method.token ≠ t.method.token) (i : Nat) :
    t.load? done i = t.load? left i := by
  cases i with
  | zero => rfl
  | succ n =>
    by_cases hcall : left[n + 1]? = some (.call t.method.token)
    · rw [Turn.load?, Turn.load?, if_pos hcall, if_pos ((h.call_iff ht).1 hcall),
        h.argument ht hcall]
    · rw [Turn.load?_eq_none_of_not_call hcall,
        Turn.load?_eq_none_of_not_call fun hdone => hcall (h.call hdone)]

theorem offer (h : SameButFloats methods left done) {t : Turn}
    (ht : ∀ method ∈ methods, method.kind.isFloat → method.token ≠ t.method.token) (i : Nat) :
    SameButFloats methods (t.offer left i) (t.offer done i) := by
  have hsame := h.load?_eq ht i
  unfold Turn.offer
  rw [hsame]
  cases hload : t.load? left i with
  | none => exact h
  | some load =>
    rw [hload] at hsame
    obtain ⟨n, arg, v, rfl, hleft, -⟩ := Turn.load?_eq_some hload
    obtain ⟨n', arg', v', hn, hdone, harg, hconst, -⟩ := Turn.load?_eq_some hsame
    obtain rfl := Nat.succ.inj hn
    have hslot := getElem?_decrypt (Array.getElem?_eq_some_iff.1 hleft).1 load
    have hslot' := getElem?_decrypt (Array.getElem?_eq_some_iff.1 hdone).1 load
    have hargument : (done[n]?.bind Instruction.constant?).isSome := by rw [harg]; exact hconst
    -- sites that differ are apart from the slots that are edited
    have hkeep : ∀ j, FloatDecrypted methods left done j →
        FloatDecrypted methods ((left.setIfInBounds n .nop).setIfInBounds (n + 1) load)
          ((done.setIfInBounds n .nop).setIfInBounds (n + 1) load) j := by
      intro j hj
      obtain ⟨hne, hbefore, hafter⟩ := hj.apart hdone hargument
      refine hj.congr ?_ ?_ ?_ ?_
      · rw [hslot, if_neg hafter, if_neg hne]
      · rw [hslot, if_neg (by omega), if_neg hbefore]
      · rw [hslot', if_neg hafter, if_neg hne]
      · rw [hslot', if_neg (by omega), if_neg hbefore]
    refine ⟨by simpa using h.size, fun k => ?_⟩
    rcases h.slots k with hstay | hsite | ⟨j, rfl, hsite⟩
    · left
      simp only [Nat.add_sub_cancel]
      rw [hslot, hslot', hstay]
    · exact .inr (.inl (hkeep k hsite))
    · exact .inr (.inr ⟨j, rfl, hkeep j hsite⟩)

/-- A floating point turn may decrypt more in the second body. -/
theorem offer_float (h : SameButFloats methods left done) {t : Turn} (ht : t.method ∈ methods)
    (hfloat : t.isFloat) (i : Nat) : SameButFloats methods left (t.offer done i) := by
  unfold Turn.offer
  cases hload : t.load? done i with
  | none => exact h
  | some load =>
    obtain ⟨n, arg, v, rfl, hdone, harg, hconst, hliteral⟩ := Turn.load?_eq_some hload
    have hslot := getElem?_decrypt (Array.getElem?_eq_some_iff.1 hdone).1 load
    have hargument : (done[n]?.bind Instruction.constant?).isSome := by rw [harg]; exact hconst
    have hnew : FloatDecrypted methods left
        ((done.setIfInBounds n .nop).setIfInBounds (n + 1) load) n := by
      refine ⟨t.method, ht, hfloat, h.call hdone, ?_, ?_, v, load, hliteral, ?_⟩
      · rw [← h.constant hargument]
        exact hargument
      · rw [hslot, if_neg (by omega), if_pos rfl]
      · rw [hslot, if_pos rfl]
    have hkeep : ∀ j, FloatDecrypted methods left done j →
        FloatDecrypted methods left ((done.setIfInBounds n .nop).setIfInBounds (n + 1) load) j := by
      intro j hj
      obtain ⟨hne, hbefore, hafter⟩ := hj.apart hdone hargument
      refine hj.congr rfl rfl ?_ ?_
      · rw [hslot, if_neg hafter, if_neg hne]
      · rw [hslot, if_neg (by omega), if_neg hbefore]
    refine ⟨by simpa using h.size, fun k => ?_⟩
    simp only [Nat.add_sub_cancel]
    by_cases hk : k = n + 1
    · exact .inr (.inr ⟨n, hk, hnew⟩)
    by_cases hkarg : k = n
    · exact .inr (.inl (hkarg ▸ hnew))
    rcases h.slots k with hstay | hsite | ⟨j, rfl, hsite⟩
    · left
      rw [hslot, if_neg hk, if_neg hkarg, hstay]
    · exact .inr (.inl (hkeep k hsite))
    · exact .inr (.inr ⟨j, rfl, hkeep j hsite⟩)

theorem run (h : SameButFloats methods left done) {t : Turn}
    (ht : ∀ method ∈ methods, method.kind.isFloat → method.token ≠ t.method.token) :
    SameButFloats methods (t.run left) (t.run done) := by
  unfold Turn.run
  rw [h.size]
  generalize List.range left.size = l
  induction l generalizing left done with
  | nil => exact h
  | cons i rest ih => exact ih (h.offer ht i)

theorem run_float (h : SameButFloats methods left done) {t : Turn} (ht : t.method ∈ methods)
    (hfloat : t.isFloat) : SameButFloats methods left (t.run done) :=
  t.run_keeps (fun _ i hbody => hbody.offer_float ht hfloat i) h

/-- The turns of the floating point methods among others make the only difference. -/
theorem runTurns {ts : List Turn} (hts : ∀ t ∈ ts, t.method ∈ methods)
    (hdistinct : (methods.map DecryptMethod.token).Nodup) (h : SameButFloats methods left done) :
    SameButFloats methods (runTurns (ts.filter fun t => !t.isFloat) left) (runTurns ts done) := by
  induction ts generalizing left done with
  | nil => exact h
  | cons t rest ih =>
    obtain ⟨ht, hrest⟩ := List.forall_mem_cons.1 hts
    by_cases hfloat : t.isFloat
    · rw [List.filter_cons_of_neg (by simp [hfloat])]
      exact ih hrest (h.run_float ht hfloat)
    · rw [List.filter_cons_of_pos (by simp [hfloat])]
      refine ih hrest (h.run fun method hmethod hother htoken => hfloat ?_)
      have hsame : method = t.method := List.inj_on_of_nodup_map hdistinct hmethod ht htoken
      rw [Turn.isFloat, ← hsame]
      exact hother

end SameButFloats

/-! ## Sites that are left -/

/-- The calls of `t` are still there, and so are the constants loaded right before them. -/
structure SitesKept (t : Token) (before after : Array Instruction) : Prop where
  call : ∀ k : Nat, before[k]? = some (Instruction.call t) → after[k]? = some (Instruction.call t)
  argument : ∀ n : Nat, before[n + 1]? = some (Instruction.call t) →
    (before[n]?.bind Instruction.constant?).isSome → after[n]? = before[n]?

namespace SitesKept

variable {t : Token} {a b c : Array Instruction}

theorem refl (t : Token) (body : Array Instruction) : SitesKept t body body :=
  ⟨fun _ => id, fun _ _ _ => rfl⟩

theorem trans (h : SitesKept t a b) (h' : SitesKept t b c) : SitesKept t a c where
  call k hcall := h'.call k (h.call k hcall)
  argument n hcall hconst := by
    have hsame := h.argument n hcall hconst
    rw [← hsame] at hconst ⊢
    exact h'.argument n (h.call _ hcall) hconst

/-- A turn of another method leaves the sites. -/
theorem offer {u : Turn} (hne : u.method.token ≠ t) (body : Array Instruction) (i : Nat) :
    SitesKept t body (u.offer body i) := by
  obtain ⟨es, houtcome⟩ := u.offer_outcome default body i
  refine ⟨fun k => houtcome.kept.others fun hmem => hne (List.mem_singleton.1 hmem).symm, ?_⟩
  intro j hcall hconst
  generalize u.offer body i = next at houtcome
  cases houtcome with
  | passed | failed => rfl
  | decrypted hslot harg hload hliteral message =>
    rw [getElem?_decrypt (Array.getElem?_eq_some_iff.1 hslot).1, if_neg, if_neg]
    · rintro rfl
      exact hne (call_injective (Option.some.inj (hslot.symm.trans hcall)))
    · rintro rfl
      exact not_constant_of_call hslot hconst

theorem runTurns {ts : List Turn} (hts : ∀ u ∈ ts, u.method.token ≠ t) (body : Array Instruction) :
    SitesKept t body (runTurns ts body) :=
  runTurns_keeps (P := SitesKept t body)
    (fun u hu b i hb => hb.trans (offer (hts u hu) b i)) (.refl t body)

end SitesKept

/-! ## What is looked up -/

/-- Under `int64Compat` no floating point method answers. -/
theorem oracleFor?_int64Compat {method oracle : DecryptMethod}
    (h : oracleFor? .int64Compat helper method = some oracle) : oracle.kind.isFloat = false := by
  by_cases hfloat : method.kind.isFloat
  · have hmethodFor : helper.methodFor? .int64 = some oracle := by
      simpa [oracleFor?, hfloat] using h
    have hkind : oracle.kind = .int64 := by simpa using List.find?_some hmethodFor
    rw [hkind]
    rfl
  · have hself : method = oracle := by simpa [oracleFor?, hfloat] using h
    simpa [← hself] using hfloat

theorem mem_oracleNames_int64Compat {name : String} (h : name ∈ oracleNames .int64Compat helper) :
    ∃ oracle ∈ helper.methods, oracle.kind.isFloat = false ∧ oracle.name = name := by
  obtain ⟨oracle, horacle, rfl⟩ := List.mem_map.1 h
  obtain ⟨method, hmethod, hanswers⟩ := List.mem_filterMap.1 horacle
  exact ⟨oracle, oracleFor?_mem hanswers hmethod, oracleFor?_int64Compat hanswers, rfl⟩

/-! ## Both settings -/

/-- Unless an `int64` method answers with a floating point value, `int64Compat` only gives up the
floating point sites: it leaves what `typeMatched` leaves without the floating point methods, and
that differs from what `typeMatched` leaves with them in sites of theirs that are decrypted. It
leaves the floating point sites alone and looks no floating point method up. -/
theorem int64Compat_gives_up_floats (hsteady : host.Steady data)
    (hmethods : (m.methods.map MethodDef.token).Nodup)
    (hnever : ∀ helper ∈ (helpers m).1, ∀ method ∈ helper.methods, method.kind = .int64 →
      NeverFloat host data helper method) (s : σ) :
    let compat := run host data .int64Compat m { host := s }
    let matched := run host data .typeMatched m { host := s }
    let recorded := run host.recording data .int64Compat m { host := (s, []) }
    compat.module = (runFor host data .typeMatched
      ((helpers m).1.map DecryptHelper.withoutFloats) (helpers m).2 m { host := s }).module ∧
    List.Forall₂ (TypeDef.Framed (SameButFloats (methodsFound m))) compat.module.types
      matched.module.types ∧
    (∀ method ∈ methodsFound m, method.kind.isFloat = false →
      List.Forall₂ (TypeDef.Framed fun left done => ∀ k : Nat,
          left[k]? = some (.call method.token) ↔ done[k]? = some (.call method.token))
        compat.module.types matched.module.types) ∧
    (∀ method ∈ methodsFound m, method.kind.isFloat →
      List.Forall₂ (TypeDef.Framed (SitesKept method.token)) m.types compat.module.types) ∧
    ∀ image typeName name there,
      .findMethod image typeName name there ∈ recorded.state.host.2 →
        ∃ helper ∈ (helpers m).1, typeName = helper.runtimeName ∧
          ∃ method ∈ helper.methods, method.kind.isFloat = false ∧ method.name = name := by
  intro compat matched recorded
  let ts := turns host data .typeMatched m s
  have hdistinct := methodsFound_nodup hmethods
  have hcompat : compat.module =
      m.mapBodies (runTurns (ts.filter fun t => !t.isFloat)) := by
    have hrun : compat.module = _ := run_module hsteady .int64Compat hmethods s
    rw [hrun, funext (runTurns_int64Compat hnever s)]
  have hmatched : matched.module = m.mapBodies (runTurns ts) :=
    run_module hsteady .typeMatched hmethods s
  have hts : ∀ t ∈ ts, t.method ∈ methodsFound m := fun t ht => mem_turns ht
  have hfloats : ∀ body, SameButFloats (methodsFound m)
      (runTurns (ts.filter fun t => !t.isFloat) body) (runTurns ts body) := fun body =>
    SameButFloats.runTurns hts hdistinct (.refl _ body)
  refine ⟨?_, ?_, fun method hmethod hplain => ?_, fun method hmethod hfloat => ?_,
    fun image typeName name there hasked => ?_⟩
  · rw [hcompat, runFor_withoutFloats_module hsteady hmethods s]
  · rw [hcompat, hmatched]
    exact Module.forall₂_mapBodies hfloats m
  · rw [hcompat, hmatched]
    refine Module.forall₂_mapBodies (fun body k => (hfloats body).call_iff ?_) m
    intro other hother hfloat htoken
    rw [List.inj_on_of_nodup_map hdistinct hother hmethod htoken, hplain] at hfloat
    cases hfloat
  · have hkept : ∀ body, SitesKept method.token (id body)
        (runTurns (ts.filter fun t => !t.isFloat) body) := by
      refine SitesKept.runTurns fun u hu htoken => ?_
      obtain ⟨hturn, hother⟩ := List.mem_filter.1 hu
      have hsame := List.inj_on_of_nodup_map hdistinct (hts u hturn) hmethod htoken
      simp [Turn.isFloat, hsame, hfloat] at hother
    have htypes := Module.forall₂_mapBodies hkept m
    rwa [Module.mapBodies_id, ← hcompat] at htypes
  · obtain ⟨exchanges, hinquiry, hstate⟩ :=
      run_inquiry host .int64Compat data m { host := (s, []) }
    have hmem : .findMethod image typeName name there ∈ exchanges := by
      rw [← List.nil_append exchanges, ← hstate]
      exact hasked
    obtain ⟨helper, hhelper, htype, hname⟩ := hinquiry.of_findMethod hmem
    exact ⟨helper, hhelper, htype, mem_oracleNames_int64Compat hname⟩

theorem answer_of_invoke {script : HostScript} {typeName name : String}
    {args : List Value} {calls : List HostCall} {v : Value}
    (h : (script.host.invoke image typeName name args calls).value = .ok v) :
    script.answer typeName name args = .value v := by
  unfold HostScript.host at h
  simp only at h
  split at h
  · rename_i hanswer
    rw [hanswer, Except.ok.inj h]
  · cases h
  · cases h
  · cases h

/-- The program of `numberModule` with a second helper, which decrypts `int64` and `float32`
constants. -/
def mixedModule (main : Array Instruction) : Module :=
  let numbers := numberModule main
  { numbers with
    types := numbers.types ++
      [{ token := ⟨0x02000003⟩
         name := "Mixed"
         methods :=
          [⟨⟨0x06000011⟩, ".cctor", 0x10, ⟨false, .void, []⟩, some
              #[.call ⟨0x0A000001⟩, .call ⟨0x0A000002⟩, .call ⟨0x0A000003⟩]⟩,
           ⟨⟨0x06000012⟩, "Long", 0x10, ⟨false, .i8, [.i4]⟩, none⟩,
           ⟨⟨0x06000013⟩, "Single", 0x10, ⟨false, .r4, [.i4]⟩, none⟩] }] }

def mixedHost : HostScript :=
  .types [("Numbers", [("Get", { answers := [("7", .value (.int32 8))] })]),
    ("Mixed", [("Long", { answers := [("7", .value (.int64 70))] }),
      ("Single", { answers := [("8", .value (.float32 0x3FC00000))] })])]

theorem neverFloat_mixedHost {main : Array Instruction} :
    ∀ helper ∈ (helpers (mixedModule main)).1, ∀ method ∈ helper.methods, method.kind = .int64 →
      NeverFloat mixedHost.host data helper method := by
  have hhelpers : (helpers (mixedModule main)).1 =
      [⟨⟨0x02000001⟩, "Numbers", [⟨.int32, ⟨0x06000002⟩, "Get"⟩]⟩,
        ⟨⟨0x02000003⟩, "Mixed", [⟨.int64, ⟨0x06000012⟩, "Long"⟩,
          ⟨.float32, ⟨0x06000013⟩, "Single"⟩]⟩] := rfl
  intro helper hhelper method hmethod hkind
  have hlong : helper.runtimeName = "Mixed" ∧ method.name = "Long" := by
    rw [hhelpers] at hhelper
    rcases List.mem_pair.1 hhelper with rfl | rfl
    · obtain rfl := List.mem_singleton.1 hmethod
      cases hkind
    · rcases List.mem_pair.1 hmethod with rfl | rfl
      · exact ⟨rfl, rfl⟩
      · cases hkind
  intro image s _ arg v hv kind hmem
  rw [hlong.1, hlong.2] at hv
  have hanswer : (([("7", .value (.int64 70))].lookup (toString arg.toInt)).or none).getD
      (.throw "no answer") = ScriptedAnswer.value v := answer_of_invoke hv
  by_cases harg : toString arg.toInt = "7"
  · rw [harg] at hanswer
    obtain rfl := ScriptedAnswer.value.inj hanswer
    obtain rfl := Option.some.inj hmem
    rfl
  · rw [List.lookup_cons, beq_eq_false_iff_ne.2 harg] at hanswer
    cases hanswer

/-- The number for the floating point site is decrypted either way, the site itself only under
`typeMatched`. -/
theorem int64Compat_gives_up_floats_mixedModule :
    let m := mixedModule #[⟨.ldcI4, .immediate (.int32 7)⟩, .call ⟨0x06000002⟩,
      .call ⟨0x06000013⟩, ⟨.ldcI4, .immediate (.int32 7)⟩, .call ⟨0x06000012⟩]
    let compat := run mixedHost.host .empty .int64Compat m { host := [] }
    let matched := run mixedHost.host .empty .typeMatched m { host := [] }
    mixedHost.host.Steady .empty ∧ (m.methods.map MethodDef.token).Nodup ∧
      (∀ helper ∈ (helpers m).1, ∀ method ∈ helper.methods, method.kind = .int64 →
        NeverFloat mixedHost.host .empty helper method) ∧
      compat.module = mixedModule #[.nop, ⟨.ldcI4, .immediate (.int32 8)⟩, .call ⟨0x06000013⟩,
        .nop, ⟨.ldcI8, .immediate (.int64 70)⟩] ∧
      matched.module = mixedModule #[.nop, .nop, ⟨.ldcR4, .immediate (.float32 0x3FC00000)⟩, .nop,
        ⟨.ldcI8, .immediate (.int64 70)⟩] ∧
      List.Forall₂ (TypeDef.Framed (SameButFloats (methodsFound m))) compat.module.types
        matched.module.types := by
  intro m compat matched
  have hsteady := mixedHost.host_deterministic.steady .empty
  have hmethods : (m.methods.map MethodDef.token).Nodup := by decide
  obtain ⟨-, hfloats, -⟩ := int64Compat_gives_up_floats hsteady hmethods neverFloat_mixedHost []
  exact ⟨hsteady, hmethods, neverFloat_mixedHost, by decide +kernel, by decide +kernel, hfloats⟩

end Decrypt

end Unmask
