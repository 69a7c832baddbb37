import Mathlib.Logic.Relation
import Unmask.Proofs.Decrypt.Literal
import Unmask.Proofs.Proxy.Redirect

/-!
# Edits of a body

The engine edits a body in two ways. It redirects the calls of a proxy's entry, and it replaces a
decrypt call by the literal load and the constant load before it by a `nop`. A literal may serve as
the argument of the next decrypt call, so a slot can be edited twice.

`BodyLaw` says slot by slot what any number of edits make of a body. It is kept by each edit because
a slot once changed calls no method definition: it is not taken for a call again, only for a
constant.
-/

namespace Unmask

/-- One edit of a body. -/
inductive BodyEdit (proxies : List ProxyType) (methods : List DecryptMethod) :
    Array Instruction → Array Instruction → Prop
  | redirect {p : ProxyType} {op : OpCode} (hp : p ∈ proxies) (htarget : p.target.isMemberRef)
      (hop : op ∈ [OpCode.call, .callvirt, .newobj]) (body : Array Instruction) :
      BodyEdit proxies methods body
        (body.map fun i => if i.calls p.entry then ⟨op, .method p.target⟩ else i)
  | decrypt {d : DecryptMethod} {body : Array Instruction} {n : Nat} {arg load : Instruction}
      {v : Value} (hd : d ∈ methods) (hcall : body[n + 1]? = some (.call d.token))
      (harg : body[n]? = some arg) (hconst : arg.constant?.isSome)
      (hload : d.kind.literal v = .ok load) :
      BodyEdit proxies methods body ((body.setIfInBounds n .nop).setIfInBounds (n + 1) load)

/-- Any number of edits. -/
abbrev BodyEdits (proxies : List ProxyType) (methods : List DecryptMethod) :=
  Relation.ReflTransGen (BodyEdit proxies methods)

/-- The decrypt call in slot `k` was decrypted. The slot holds the literal, unless that was an
`int32` which then served as the argument of the decrypt call in the next slot. -/
inductive Decrypted (methods : List DecryptMethod) (before after : Array Instruction) : Nat → Prop
  | literal {d : DecryptMethod} {k : Nat} {v : Value} {load : Instruction} (hd : d ∈ methods)
      (hbefore : before[k]? = some (.call d.token)) (hload : d.kind.literal v = .ok load)
      (hafter : after[k]? = some load) : Decrypted methods before after k
  | chained {d : DecryptMethod} {k : Nat} (hd : d ∈ methods) (hkind : d.kind = .int32)
      (hbefore : before[k]? = some (.call d.token)) (hafter : after[k]? = some .nop)
      (hnext : Decrypted methods before after (k + 1)) : Decrypted methods before after k

/-- What may have become of a slot that is not what it was: a call of a proxy's entry is a direct
call of a member reference, a decrypt call is decrypted, and a constant load is a `nop` if the slot
after it is decrypted. -/
inductive SlotChange (proxies : List ProxyType) (methods : List DecryptMethod)
    (before after : Array Instruction) (k : Nat) : Prop
  | redirected {p : ProxyType} {op : OpCode} {i : Instruction} (hp : p ∈ proxies)
      (hbefore : before[k]? = some i) (hcalls : i.calls p.entry) (htarget : p.target.isMemberRef)
      (hop : op ∈ [OpCode.call, .callvirt, .newobj])
      (hafter : after[k]? = some ⟨op, .method p.target⟩)
  | decrypted (h : Decrypted methods before after k)
  | argument {i : Instruction} (hbefore : before[k]? = some i) (hconst : i.constant?.isSome)
      (hafter : after[k]? = some .nop) (hnext : Decrypted methods before after (k + 1))

/-- A body keeps its length, and every slot is what it was or has changed as it may. -/
structure BodyLaw (proxies : List ProxyType) (methods : List DecryptMethod)
    (before after : Array Instruction) : Prop where
  size : after.size = before.size
  slots : ∀ k : Nat, after[k]? = before[k]? ∨ SlotChange proxies methods before after k

variable {proxies : List ProxyType} {methods : List DecryptMethod} {before body : Array Instruction}
  {k : Nat}

/-! ## Slots that have changed -/

theorem Instruction.not_calls_of_not_isCall {i : Instruction} (h : ¬ i.isCall) (t : Token) :
    ¬ i.calls t :=
  fun hcalls => h (calls_iff.1 hcalls).1

theorem Decrypted.not_isCall (h : Decrypted methods before body k) :
    ∃ i, body[k]? = some i ∧ ¬ i.isCall := by
  cases h with
  | literal _ _ hload hafter => exact ⟨_, hafter, LiteralKind.literal_not_isCall hload⟩
  | chained _ _ _ hafter _ => exact ⟨_, hafter, by decide⟩

/-- A slot that has changed calls no method definition. -/
theorem SlotChange.not_calls (h : SlotChange proxies methods before body k) {i : Instruction}
    (hi : body[k]? = some i) {t : Token} (ht : t.isMethodDef) : ¬ i.calls t := by
  intro hcalls
  obtain ⟨hcall, hoperand⟩ := Instruction.calls_iff.1 hcalls
  cases h with
  | redirected _ _ _ htarget _ hafter =>
    obtain rfl := Option.some.inj (hi.symm.trans hafter)
    obtain rfl := Operand.method.inj hoperand
    exact Token.not_isMethodDef htarget ht
  | decrypted hdecrypted =>
    obtain ⟨j, hj, hnot⟩ := hdecrypted.not_isCall
    obtain rfl := Option.some.inj (hi.symm.trans hj)
    exact hnot hcall
  | argument _ _ hafter _ =>
    obtain rfl := Option.some.inj (hi.symm.trans hafter)
    exact absurd hcall (by decide)

/-- A slot that has changed and holds a constant was an `int32` decrypt call. -/
theorem SlotChange.of_constant (h : SlotChange proxies methods before body k) {i : Instruction}
    (hi : body[k]? = some i) (hconst : i.constant?.isSome) :
    ∃ d ∈ methods, d.kind = .int32 ∧ before[k]? = some (.call d.token) := by
  cases h with
  | redirected _ _ _ _ hop hafter =>
    obtain rfl := Option.some.inj (hi.symm.trans hafter)
    simp [Instruction.constant?_directCall hop] at hconst
  | decrypted hdecrypted =>
    cases hdecrypted with
    | literal hd hbefore hload hafter =>
      obtain rfl := Option.some.inj (hi.symm.trans hafter)
      exact ⟨_, hd, LiteralKind.kind_of_constant hload hconst, hbefore⟩
    | chained _ _ _ hafter _ =>
      obtain rfl := Option.some.inj (hi.symm.trans hafter)
      exact absurd hconst (by decide)
  | argument _ _ hafter _ =>
    obtain rfl := Option.some.inj (hi.symm.trans hafter)
    exact absurd hconst (by decide)

/-- An edit that leaves a changed slot alone and decrypted slots decrypted keeps the change. -/
theorem SlotChange.of_slot {next : Array Instruction} (h : SlotChange proxies methods before body k)
    (hslot : next[k]? = body[k]?)
    (hkeep : ∀ {j}, Decrypted methods before body j → Decrypted methods before next j) :
    SlotChange proxies methods before next k := by
  cases h with
  | redirected hp hbefore hcalls htarget hop hafter =>
    exact .redirected hp hbefore hcalls htarget hop (hslot.trans hafter)
  | decrypted hdecrypted => exact .decrypted (hkeep hdecrypted)
  | argument hbefore hconst hafter hnext =>
    exact .argument hbefore hconst (hslot.trans hafter) (hkeep hnext)

/-- A call of a method definition has not changed yet. -/
theorem BodyLaw.calls_unchanged (h : BodyLaw proxies methods before body) {i : Instruction}
    (hi : body[k]? = some i) {t : Token} (ht : t.isMethodDef) (hcalls : i.calls t) :
    before[k]? = some i := by
  rcases h.slots k with hsame | hchange
  · exact hsame.symm.trans hi
  · exact absurd hcalls (hchange.not_calls hi ht)

/-! ## Each edit keeps the law -/

section Redirect

variable {p : ProxyType} {op : OpCode}

theorem getElem?_redirect_of_not_calls {i : Instruction} (hi : body[k]? = some i)
    (hcalls : ¬ i.calls p.entry) :
    (body.map fun i => if i.calls p.entry then ⟨op, .method p.target⟩ else i)[k]? = some i := by
  simp [hi, hcalls]

theorem Decrypted.redirect (h : Decrypted methods before body k) :
    Decrypted methods before
      (body.map fun i => if i.calls p.entry then ⟨op, .method p.target⟩ else i) k := by
  induction h with
  | literal hd hbefore hload hafter =>
    have hnot := LiteralKind.literal_not_isCall hload
    exact .literal hd hbefore hload (getElem?_redirect_of_not_calls hafter
      (Instruction.not_calls_of_not_isCall hnot p.entry))
  | chained hd hkind hbefore hafter _ ih =>
    have hcalls := Instruction.not_calls_of_not_isCall (i := .nop) (by decide) p.entry
    exact .chained hd hkind hbefore (getElem?_redirect_of_not_calls hafter hcalls) ih

theorem SlotChange.redirect (hentry : p.entry.isMethodDef)
    (h : SlotChange proxies methods before body k) :
    SlotChange proxies methods before
      (body.map fun i => if i.calls p.entry then ⟨op, .method p.target⟩ else i) k := by
  refine h.of_slot ?_ Decrypted.redirect
  cases hi : body[k]? with
  | none => simp [hi]
  | some i => exact getElem?_redirect_of_not_calls hi (h.not_calls hi hentry)

theorem BodyLaw.redirect (hp : p ∈ proxies) (hentry : p.entry.isMethodDef)
    (htarget : p.target.isMemberRef) (hop : op ∈ [OpCode.call, .callvirt, .newobj])
    (h : BodyLaw proxies methods before body) :
    BodyLaw proxies methods before
      (body.map fun i => if i.calls p.entry then ⟨op, .method p.target⟩ else i) := by
  refine ⟨by simpa using h.size, fun k => ?_⟩
  rcases h.slots k with hsame | hchange
  · cases hi : body[k]? with
    | none => exact .inl (by simp [← hsame, hi])
    | some i =>
      by_cases hcalls : i.calls p.entry
      · exact .inr (.redirected hp (hsame.symm.trans hi) hcalls htarget hop (by simp [hi, hcalls]))
      · exact .inl ((getElem?_redirect_of_not_calls hi hcalls).trans (hi.symm.trans hsame))
  · exact .inr (hchange.redirect hentry)

end Redirect

section Decrypt

variable {d : DecryptMethod} {n : Nat} {arg load : Instruction} {v : Value}

theorem getElem?_decrypt (h : n + 1 < body.size) (load : Instruction) (k : Nat) :
    ((body.setIfInBounds n .nop).setIfInBounds (n + 1) load)[k]? =
      if k = n + 1 then some load else if k = n then some .nop else body[k]? := by
  grind

/-- Decrypted slots stay decrypted: the new call is none of them, and its argument may be the
literal of one, which is thereby used up. -/
theorem Decrypted.decrypt (hd : d ∈ methods) (hbefore : before[n + 1]? = some (.call d.token))
    (hcall : body[n + 1]? = some (.call d.token)) (harg : body[n]? = some arg)
    (hconst : arg.constant?.isSome) (hload : d.kind.literal v = .ok load)
    (h : Decrypted methods before body k) :
    Decrypted methods before ((body.setIfInBounds n .nop).setIfInBounds (n + 1) load) k := by
  have hslot := getElem?_decrypt (Array.getElem?_eq_some_iff.1 hcall).1 load
  have hnew : Decrypted methods before ((body.setIfInBounds n .nop).setIfInBounds (n + 1) load)
      (n + 1) := .literal hd hbefore hload (by simp [hslot])
  induction h with
  | @literal c k w old hc hcbefore hcload hafter =>
    by_cases hk : k = n + 1
    · exact hk ▸ hnew
    by_cases hkarg : k = n
    · -- the literal is the argument, so it is an `int32`
      subst hkarg
      obtain rfl := Option.some.inj (harg.symm.trans hafter)
      have hkind := LiteralKind.kind_of_constant hcload hconst
      exact .chained hc hkind hcbefore (by simp [hslot]) hnew
    · exact .literal hc hcbefore hcload (by simp [hslot, hk, hkarg, hafter])
  | @chained c k hc hkind hcbefore hafter hnext ih =>
    by_cases hk : k = n + 1
    · exact hk ▸ hnew
    · refine .chained hc hkind hcbefore ?_ ih
      simp [hslot, hk, hafter]

theorem BodyLaw.decrypt (hd : d ∈ methods) (htoken : d.token.isMethodDef)
    (hcall : body[n + 1]? = some (.call d.token)) (harg : body[n]? = some arg)
    (hconst : arg.constant?.isSome) (hload : d.kind.literal v = .ok load)
    (h : BodyLaw proxies methods before body) :
    BodyLaw proxies methods before ((body.setIfInBounds n .nop).setIfInBounds (n + 1) load) := by
  have hcalls : (Instruction.call d.token).calls d.token := Instruction.calls_iff.2 ⟨rfl, rfl⟩
  have hbefore : before[n + 1]? = some (.call d.token) := h.calls_unchanged hcall htoken hcalls
  have hslot := getElem?_decrypt (Array.getElem?_eq_some_iff.1 hcall).1 load
  have hkeep : ∀ {k}, Decrypted methods before body k → Decrypted methods before
      ((body.setIfInBounds n .nop).setIfInBounds (n + 1) load) k :=
    Decrypted.decrypt hd hbefore hcall harg hconst hload
  have hnew : Decrypted methods before ((body.setIfInBounds n .nop).setIfInBounds (n + 1) load)
      (n + 1) := .literal hd hbefore hload (by simp [hslot])
  refine ⟨by simpa using h.size, fun k => ?_⟩
  by_cases hk : k = n + 1
  · exact .inr (.decrypted (hk ▸ hnew))
  by_cases hkarg : k = n
  · subst hkarg
    have hnop : ((body.setIfInBounds k .nop).setIfInBounds (k + 1) load)[k]? = some .nop := by
      simp [hslot]
    rcases h.slots k with hsame | hchange
    · exact .inr (.argument (hsame.symm.trans harg) hconst hnop hnew)
    · obtain ⟨c, hc, hkind, hcbefore⟩ := hchange.of_constant harg hconst
      exact .inr (.decrypted (.chained hc hkind hcbefore hnop hnew))
  · have hstay : ((body.setIfInBounds n .nop).setIfInBounds (n + 1) load)[k]? = body[k]? := by
      simp [hslot, hk, hkarg]
    rcases h.slots k with hsame | hchange
    · exact .inl (hstay.trans hsame)
    · exact .inr (hchange.of_slot hstay hkeep)

end Decrypt

/-- One edit keeps the law. -/
theorem BodyLaw.step (hproxies : ∀ p ∈ proxies, p.entry.isMethodDef)
    (hmethods : ∀ d ∈ methods, d.token.isMethodDef) {next : Array Instruction}
    (h : BodyLaw proxies methods before body) (hedit : BodyEdit proxies methods body next) :
    BodyLaw proxies methods before next := by
  cases hedit with
  | redirect hp htarget hop => exact h.redirect hp (hproxies _ hp) htarget hop
  | decrypt hd hcall harg hconst hload =>
    exact h.decrypt hd (hmethods _ hd) hcall harg hconst hload

/-- Any number of edits keep the law. -/
theorem BodyLaw.of_edits (hproxies : ∀ p ∈ proxies, p.entry.isMethodDef)
    (hmethods : ∀ d ∈ methods, d.token.isMethodDef) {after : Array Instruction}
    (h : BodyEdits proxies methods before after) :
    BodyLaw proxies methods before after := by
  induction h with
  | refl => exact ⟨rfl, fun _ => .inl rfl⟩
  | tail _ hedit ih => exact ih.step hproxies hmethods hedit

end Unmask
