import Unmask.Proofs.Decrypt.Course
import Unmask.Proofs.Decrypt.Frame

/-!
# The flag of the decrypt pass

A run says that it changed the module if it decrypted a site. Each decryption takes a call away, and
no edit brings one up: the load before it becomes a `nop`, and literals are no calls. So the calls
left and the sites decrypted add up to the calls there were, and a run that decrypts a site cannot
end where it began. That holds of every host and of every table of answers, and of modules whose
tokens repeat.
-/

namespace Unmask.Decrypt

variable {α σ : Type}

/-! ## Spending calls -/

/-- On the way from `before` to `after`, `n` calls were spent; where none was, nothing changed. -/
structure Spent (calls : α → Nat) (n : Nat) (before after : α) : Prop where
  total : calls after + n = calls before
  idle (h : n = 0) : after = before

namespace Spent

variable {calls : α → Nat} {n k : Nat} {a b c : α}

theorem refl (calls : α → Nat) (a : α) : Spent calls 0 a a := ⟨rfl, fun _ => rfl⟩

theorem trans (h : Spent calls n a b) (h' : Spent calls k b c) : Spent calls (n + k) a c where
  total := by
    have hfirst := h.total
    have hsecond := h'.total
    omega
  idle hnone := (h'.idle (by omega)).trans (h.idle (by omega))

/-- The number of calls spent tells whether anything changed. -/
theorem pos_iff (h : Spent calls n a b) : 0 < n ↔ b ≠ a := by
  constructor
  · rintro hspent rfl
    have htotal := h.total
    omega
  · intro hchanged
    exact Nat.pos_of_ne_zero fun hnone => hchanged (h.idle hnone)

end Spent

/-- What each item spends adds up over the list. -/
theorem mapState_spent {β : Type} {f : α → σ → α × σ} (count : σ → Nat) {items : α → List β}
    {p : β → Bool}
    (h : ∀ a s, ∃ n, count (f a s).2 = count s + n ∧
      Spent (fun a => (items a).countP p) n a (f a s).1) (l : List α) (s : σ) :
    ∃ n, count (mapState f l s).2 = count s + n ∧
      Spent (fun l => (l.flatMap items).countP p) n l (mapState f l s).1 := by
  induction l generalizing s with
  | nil => exact ⟨0, rfl, .refl _ []⟩
  | cons a rest ih =>
    obtain ⟨n, hcount, hhead⟩ := h a s
    obtain ⟨k, hcount', hrest⟩ := ih (f a s).2
    refine ⟨n + k, ?_, ?_, fun hnone => ?_⟩
    · show count (mapState f rest (f a s).2).2 = _
      rw [hcount', hcount, Nat.add_assoc]
    · have hfirst := hhead.total
      have hsecond := hrest.total
      simp only [mapState, List.flatMap_cons, List.countP_append]
      omega
    · simp only [mapState, hhead.idle (by omega), hrest.idle (by omega)]

/-! ## One turn -/

theorem countP_setIfInBounds (p : Instruction → Bool) {body : Array Instruction} {k : Nat}
    {old : Instruction} (h : body[k]? = some old) (new : Instruction) :
    (body.setIfInBounds k new).countP p + (p old).toNat = body.countP p + (p new).toNat := by
  obtain ⟨hk, rfl⟩ := Array.getElem?_eq_some_iff.1 h
  have hcounted : (p body[k]).toNat ≤ body.countP p := by
    cases hp : p body[k] with
    | false => exact Nat.zero_le _
    | true => exact Array.countP_pos_iff.2 ⟨body[k], Array.getElem_mem hk, hp⟩
  rw [Array.setIfInBounds, dif_pos hk, Array.countP_set]
  cases hold : p body[k] <;> cases hnew : p new <;> simp_all

/-- A slot that is decrypted spends its call, and every other slot spends none. -/
theorem SlotOutcome.spent {method : DecryptMethod} {d : MethodDef} {body next : Array Instruction}
    {i : Nat} {es : EventLog} (h : SlotOutcome method d body i next es) :
    Spent (Array.countP Instruction.isCall) (es.countP fun e => e.kind.isTransformation) body
      next := by
  cases h with
  | passed => exact .refl _ body
  | failed => exact .refl _ body
  | @decrypted n arg load v hslot harg hconst hload message =>
    have hone : [siteEvent method.kind.eventKind ⟨d, n + 1⟩ message].countP
        (fun e => e.kind.isTransformation) = 1 := by
      simp [siteEvent, eventKind_isTransformation]
    have hcleared := countP_setIfInBounds Instruction.isCall harg .nop
    have hcall : (body.setIfInBounds n .nop)[n + 1]? = some (.call method.token) := by
      rw [Array.getElem?_setIfInBounds_ne (by omega), hslot]
    have hloaded := countP_setIfInBounds Instruction.isCall hcall load
    have hnop : Instruction.nop.isCall = false := rfl
    have hgone : (Instruction.call method.token).isCall = true := rfl
    have hliteral : load.isCall = false := by simpa using LiteralKind.literal_not_isCall hload
    rw [Instruction.not_isCall_of_constant hconst, hnop] at hcleared
    rw [hgone, hliteral] at hloaded
    rw [hone]
    exact ⟨by simp only [Bool.toNat_true, Bool.toNat_false] at *; omega, by omega⟩

theorem foldl_patchSlot_spent (host : Host σ) (method : DecryptMethod) (live : Live) (d : MethodDef)
    (l : List Nat) (scan : Scan (Walk σ)) :
    let done := l.foldl (patchSlot (patchSite host method live) d) scan
    ∃ n, done.count = scan.count + n ∧
      Spent (Array.countP Instruction.isCall) n scan.body done.body := by
  induction l generalizing scan with
  | nil => exact ⟨0, rfl, .refl _ scan.body⟩
  | cons i rest ih =>
    obtain ⟨_, -, hslot, hcount⟩ := patchSlot_outcome host method live d scan i
    obtain ⟨k, hcount', hrest⟩ := ih (patchSlot (patchSite host method live) d scan i)
    refine ⟨_ + k, ?_, hslot.spent.trans hrest⟩
    rw [List.foldl_cons, hcount', hcount, Nat.add_assoc]

theorem scanMethod_spent (host : Host σ) (method : DecryptMethod) (live : Live) (d : MethodDef)
    (acc : Walk σ × Nat × List LogRecord) :
    let done := scanMethod (patchSlot (patchSite host method live)) d acc
    ∃ n, done.2.2.1 = acc.2.1 + n ∧
      Spent (fun d => d.code.toList.countP Instruction.isCall) n d done.1 := by
  cases hbody : d.body with
  | none =>
    have hdone : scanMethod (patchSlot (patchSite host method live)) d acc = (d, acc) := by
      simp only [scanMethod, hbody]
    rw [hdone]
    exact ⟨0, rfl, .refl _ d⟩
  | some body =>
    obtain ⟨n, hcount, hspent⟩ := foldl_patchSlot_spent host method live d (List.range body.size)
      ⟨body, acc.1, acc.2.1, acc.2.2⟩
    refine ⟨n, by simpa only [scanMethod, hbody] using hcount, ?_, fun hnone => ?_⟩
    · simpa only [scanMethod, MethodDef.code, hbody, Option.getD_some, Array.countP_toList] using
        hspent.total
    · simp only [scanMethod, hbody, hspent.idle hnone]
      rw [← hbody]

/-- The calls of a module. -/
def callCount (m : Module) : Nat := m.slots.countP Instruction.isCall

/-- A turn counts the calls it spends. -/
theorem patch_spent (host : Host σ) (method : DecryptMethod) (live : Live) (m : Module)
    (walk : Walk σ) :
    let edited := m.patch (patchSite host method live) walk
    Spent callCount edited.count m edited.module := by
  obtain ⟨hmethods, hstate⟩ := editMethods_methods
    (scanMethod (patchSlot (patchSite host method live))) m (walk, 0, [])
  obtain ⟨n, hcount, hspent⟩ := mapState_spent (fun acc => acc.2.1)
    (scanMethod_spent host method live) m.methods (walk, 0, [])
  rw [← hstate, Nat.zero_add] at hcount
  rw [← hmethods] at hspent
  intro edited
  have hedited : edited.count = n := hcount
  rw [hedited]
  exact ⟨hspent.total, fun hnone =>
    (Module.SameButBodies.patch _ m walk).eq_of_methods_eq (hspent.idle hnone)⟩

/-! ## A run -/

/-- One step of a run: news of the host, or the turn of a decrypt method. -/
inductive Step (host : Host σ) : Progress σ → Progress σ → Prop
  | quiet (p : Progress σ) (walk : Walk σ) : Step host p { p with walk }
  | turn (p : Progress σ) (method : DecryptMethod) (live : Live) (walk : Walk σ) :
      Step host p
        { module := (p.module.patch (patchSite host method live) p.walk).module, walk
          rewritten := p.rewritten + (p.module.patch (patchSite host method live) p.walk).count }

/-- Any number of steps. -/
abbrev Steps (host : Host σ) := Relation.ReflTransGen (Step host)

theorem decryptMethod_steps (host : Host σ) (numeric : NumericOracle) (image : ImageId)
    (helper : DecryptHelper) (p : Progress σ) (method : DecryptMethod) :
    Steps host p (decryptMethod host numeric image helper p method) := by
  rcases decryptMethod_cases host numeric image helper p method with
    ⟨-, note, hdone⟩ | ⟨oracle, -, ⟨-, note, hdone⟩ | ⟨-, hdone⟩⟩
  · rw [hdone]
    exact .single (.quiet p _)
  · rw [hdone]
    exact .single (.quiet p _)
  · have hheard : Steps host p (p.heard (methodReply host image helper oracle p)) :=
      .single (.quiet p _)
    rw [hdone]
    exact hheard.tail (.turn _ method _ _)

theorem foldl_decryptMethod_steps (host : Host σ) (numeric : NumericOracle) (image : ImageId)
    (helper : DecryptHelper) (l : List DecryptMethod) (p : Progress σ) :
    Steps host p (l.foldl (decryptMethod host numeric image helper) p) := by
  induction l generalizing p with
  | nil => exact .refl
  | cons method rest ih => exact (decryptMethod_steps host numeric image helper p method).trans (ih _)

/-- A run is made of steps. -/
theorem decryptHelpers_steps (host : Host σ) (numeric : NumericOracle) (image : ImageId)
    (found : List DecryptHelper) (p : Progress σ) :
    Steps host p (decryptHelpers host numeric image found p) := by
  induction found generalizing p with
  | nil => exact .refl
  | cons helper rest ih =>
    have hheard : Steps host p (p.heard (typeReply host image helper p)) := .single (.quiet p _)
    rcases decryptHelpers_cons host numeric image helper p rest with
      ⟨-, note, hdone⟩ | ⟨-, hdone⟩
    · rw [hdone]
      exact hheard.tail (.quiet _ _)
    · rw [hdone]
      exact (hheard.trans (foldl_decryptMethod_steps host numeric image helper _ _)).trans (ih _)

theorem Step.spent {host : Host σ} {p p' : Progress σ} (h : Step host p p') :
    ∃ n, p'.rewritten = p.rewritten + n ∧ Spent callCount n p.module p'.module := by
  cases h with
  | quiet walk => exact ⟨0, rfl, .refl _ p.module⟩
  | turn method live walk => exact ⟨_, rfl, patch_spent host method live p.module p.walk⟩

theorem Steps.spent {host : Host σ} {p p' : Progress σ} (h : Steps host p p') :
    ∃ n, p'.rewritten = p.rewritten + n ∧ Spent callCount n p.module p'.module := by
  induction h with
  | refl => exact ⟨0, rfl, .refl _ p.module⟩
  | tail _ hstep ih =>
    obtain ⟨n, hcount, hspent⟩ := ih
    obtain ⟨k, hcount', hspent'⟩ := hstep.spent
    exact ⟨n + k, by rw [hcount', hcount, Nat.add_assoc], hspent.trans hspent'⟩

/-- A run says that it changed the module exactly if it did. -/
theorem run_changed (host : Host σ) (data : ByteArray) (numeric : NumericOracle) (m : Module)
    (o : Oracle σ) :
    (run host data numeric m o).changed = .ok (decide ((run host data numeric m o).module ≠ m)) := by
  unfold run
  simp only
  split
  · simp
  split
  · simp
  · rename_i image _
    obtain ⟨n, hcount, hspent⟩ := (decryptHelpers_steps host numeric image (helpers m).1
      ⟨m, ⟨{ o with host := (host.load data o.host).state },
        ⟨[], (helpers m).2 ++ (host.load data o.host).log⟩⟩, 0⟩).spent
    have hrewritten := hcount.trans (Nat.zero_add n)
    simp only [hrewritten, hspent.pos_iff]

end Unmask.Decrypt
