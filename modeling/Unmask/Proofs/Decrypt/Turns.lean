import Unmask.Proofs.Decrypt.Flag
import Unmask.Proofs.Decrypt.Sites

/-!
# Turns

To a body, a run with a host whose answers depend on the question alone is a list of turns: each
decrypt method in turn goes once through the slots, from the first to the last, and decrypts the
calls of it that have a constant before them for which it has a literal.

A decrypted `int32` may be the constant for the call in the next slot. The next slot sees it if its
method has its turn at the same time or later. If the method had its turn before, the call is left,
and another run decrypts it: `runTurns_idem_iff`.
-/

namespace Unmask.Decrypt

/-- A decrypt method with what its live method answers. -/
structure Turn where
  method : DecryptMethod
  answer? : Int32 → Option Value

namespace Turn

def literal? (t : Turn) (arg : Int32) : Option Instruction :=
  (t.answer? arg).bind fun v => (t.method.kind.literal v).toOption

/-- The literal for the call in a slot, if the turn decrypts it. -/
def load? (t : Turn) (body : Array Instruction) : Nat → Option Instruction
  | 0 => none
  | n + 1 =>
    if body[n + 1]? = some (.call t.method.token) then
      (body[n]?.bind Instruction.constant?).bind t.literal?
    else none

/-- What the turn makes of a body when it comes to slot `i`. -/
def offer (t : Turn) (body : Array Instruction) (i : Nat) : Array Instruction :=
  match t.load? body i with
  | none => body
  | some load => (body.setIfInBounds (i - 1) .nop).setIfInBounds i load

/-- What the turn makes of a body. -/
def run (t : Turn) (body : Array Instruction) : Array Instruction :=
  (List.range body.size).foldl t.offer body

end Turn

/-- What some turns make of a body, one after the other. -/
def runTurns (ts : List Turn) (body : Array Instruction) : Array Instruction :=
  ts.foldl (fun body t => t.run body) body

theorem runTurns_cons (t : Turn) (ts : List Turn) (body : Array Instruction) :
    runTurns (t :: ts) body = runTurns ts (t.run body) := rfl

theorem runTurns_append (ts us : List Turn) (body : Array Instruction) :
    runTurns (ts ++ us) body = runTurns us (runTurns ts body) := List.foldl_append

theorem runTurns_empty (ts : List Turn) : runTurns ts #[] = #[] := by
  induction ts with
  | nil => rfl
  | cons t rest ih => exact ih

/-! ## One slot -/

variable {t u : Turn} {ts : List Turn} {body next : Array Instruction} {i n k : Nat}

theorem toOption_eq_some {ε α : Type} {x : Except ε α} {a : α} :
    x.toOption = some a ↔ x = .ok a := by
  cases x <;> simp [Except.toOption]

theorem Turn.load?_eq_none_of_not_call (h : body[i]? ≠ some (.call t.method.token)) :
    t.load? body i = none := by
  cases i with
  | zero => rfl
  | succ n => exact if_neg h

theorem Turn.load?_congr (hcall : next[n + 1]? = body[n + 1]?) (harg : next[n]? = body[n]?) :
    t.load? next (n + 1) = t.load? body (n + 1) := by
  rw [load?, load?, hcall, harg]

theorem Turn.load?_eq_some {load : Instruction} (h : t.load? body i = some load) :
    ∃ n arg v, i = n + 1 ∧ body[n + 1]? = some (.call t.method.token) ∧ body[n]? = some arg ∧
      arg.constant?.isSome ∧ t.method.kind.literal v = .ok load := by
  cases i with
  | zero => cases h
  | succ n =>
    rw [load?] at h
    split at h
    · rename_i hcall
      obtain ⟨c, hconst, hliteral⟩ := Option.bind_eq_some_iff.1 h
      obtain ⟨arg, hslot, harg⟩ := Option.bind_eq_some_iff.1 hconst
      obtain ⟨v, -, hkind⟩ := Option.bind_eq_some_iff.1 hliteral
      exact ⟨n, arg, v, rfl, hcall, hslot, by simp [harg], toOption_eq_some.1 hkind⟩
    · cases h

/-- A turn passes over a slot or decrypts it. -/
theorem Turn.offer_outcome (t : Turn) (d : MethodDef) (body : Array Instruction) (i : Nat) :
    ∃ es, SlotOutcome t.method d body i (t.offer body i) es := by
  unfold offer
  cases hload : t.load? body i with
  | none =>
    by_cases hcall : body[i]? = some (.call t.method.token)
    · exact ⟨_, .failed hcall ""⟩
    · exact ⟨_, .passed hcall⟩
  | some load =>
    obtain ⟨n, arg, v, rfl, hcall, hslot, hconst, hkind⟩ := load?_eq_some hload
    exact ⟨_, .decrypted hcall hslot hconst hkind ""⟩

namespace SlotOutcome

variable {method : DecryptMethod} {d : MethodDef} {es : EventLog}

/-- A constant that has come up took the place of a call of the method. -/
theorem constant (h : SlotOutcome method d body i next es)
    (hconst : (next[k]?.bind Instruction.constant?).isSome) :
    next[k]? = body[k]? ∨ body[k]? = some (.call method.token) := by
  cases h with
  | passed | failed => exact .inl rfl
  | @decrypted n arg load v hslot harg hload hliteral message =>
    have hbound := (Array.getElem?_eq_some_iff.1 hslot).1
    rw [getElem?_decrypt hbound] at hconst ⊢
    split
    · rename_i hk
      exact .inr (hk ▸ hslot)
    split
    · rename_i hk hkarg
      rw [if_neg hk, if_pos hkarg] at hconst
      exact absurd hconst (by decide)
    · exact .inl rfl

/-- A call goes only together with the constant before it. -/
theorem kept_or_used (h : SlotOutcome method d body i next es) {x : Token}
    (hbefore : body[n + 1]? = some (.call x) ∨ body[n]? = some .nop) :
    next[n + 1]? = some (.call x) ∨ next[n]? = some .nop := by
  cases h with
  | passed | failed => exact hbefore
  | @decrypted j arg load v hslot harg hconst hliteral message =>
    have hbound := (Array.getElem?_eq_some_iff.1 hslot).1
    rw [getElem?_decrypt hbound, getElem?_decrypt hbound]
    by_cases hn : n = j
    · exact .inr (by simp [hn])
    by_cases hlast : n = j + 1
    · -- the edited slots are `j` and `n`: slot `n` held the call, no `nop`
      have hcall : body[n + 1]? = some (.call x) := hbefore.resolve_right fun hnop => by
        rw [hlast, hslot] at hnop
        exact nop_ne_call _ (Option.some.inj hnop).symm
      refine .inl ?_
      rw [if_neg (by omega), if_neg (by omega)]
      exact hcall
    by_cases harg' : n + 1 = j
    · -- the slot after `n` was the constant
      have hnop : body[n]? = some .nop := hbefore.resolve_left fun hcall => by
        rw [harg', harg] at hcall
        exact ne_call_of_constant hconst x (Option.some.inj hcall)
      exact .inr (by simpa [hn, hlast] using hnop)
    · rw [if_neg (by omega), if_neg harg', if_neg hlast, if_neg hn]
      exact hbefore

end SlotOutcome

/-! ## One turn -/

theorem Turn.size_offer (t : Turn) (body : Array Instruction) (i : Nat) :
    (t.offer body i).size = body.size := by
  obtain ⟨es, houtcome⟩ := t.offer_outcome default body i
  exact houtcome.kept.size

/-- What a turn keeps at every slot, it keeps. -/
theorem Turn.run_keeps (t : Turn) {P : Array Instruction → Prop}
    (h : ∀ body i, P body → P (t.offer body i)) (hbody : P body) : P (t.run body) := by
  unfold run
  generalize List.range body.size = l
  induction l generalizing body with
  | nil => exact hbody
  | cons i rest ih => exact ih (h body i hbody)

theorem runTurns_keeps {P : Array Instruction → Prop}
    (h : ∀ t ∈ ts, ∀ body i, P body → P (t.offer body i)) (hbody : P body) :
    P (runTurns ts body) := by
  induction ts generalizing body with
  | nil => exact hbody
  | cons t rest ih =>
    exact ih (fun u hu => h u (List.mem_cons_of_mem t hu))
      (t.run_keeps (h t List.mem_cons_self) hbody)

/-- No call comes up. -/
theorem call_of_runTurns {x : Token} (h : (runTurns ts body)[k]? = some (.call x)) :
    body[k]? = some (.call x) := by
  refine runTurns_keeps (P := fun b => b[k]? = some (.call x) → body[k]? = some (.call x))
    (fun t _ b i hb hcall => ?_) id h
  obtain ⟨es, houtcome⟩ := t.offer_outcome default b i
  exact hb (houtcome.kept.old hcall)

/-- A call whose constant is not used up is left. -/
theorem call_runTurns {x : Token} (hcall : body[n + 1]? = some (.call x))
    (hconst : ((runTurns ts body)[n]?.bind Instruction.constant?).isSome) :
    (runTurns ts body)[n + 1]? = some (.call x) := by
  refine (runTurns_keeps (P := fun b => b[n + 1]? = some (.call x) ∨ b[n]? = some .nop)
    (fun t _ b i hb => ?_) (.inl hcall)).resolve_right fun hnop => ?_
  · obtain ⟨es, houtcome⟩ := t.offer_outcome default b i
    exact houtcome.kept_or_used hb
  · rw [hnop] at hconst
    exact absurd hconst (by decide)

/-- A constant that has come up took the place of a call of one of the methods. -/
theorem constant_of_runTurns
    (hconst : ((runTurns ts body)[k]?.bind Instruction.constant?).isSome) :
    (runTurns ts body)[k]? = body[k]? ∨ ∃ u ∈ ts, body[k]? = some (.call u.method.token) := by
  let P (b : Array Instruction) : Prop :=
    (∀ x, b[k]? = some (.call x) → body[k]? = some (.call x)) ∧
      ((b[k]?.bind Instruction.constant?).isSome →
        b[k]? = body[k]? ∨ ∃ u ∈ ts, body[k]? = some (.call u.method.token))
  have hend : P (runTurns ts body) := by
    refine runTurns_keeps (fun t ht b i hb => ?_) ⟨fun _ => id, fun _ => .inl rfl⟩
    obtain ⟨es, houtcome⟩ := t.offer_outcome default b i
    refine ⟨fun x hcall => hb.1 x (houtcome.kept.old hcall), fun hconst => ?_⟩
    rcases houtcome.constant hconst with hstay | hcall
    · rw [hstay] at hconst ⊢
      exact hb.2 hconst
    · exact .inr ⟨t, ht, hb.1 _ hcall⟩
  exact hend.2 hconst

/-! ## After a turn -/

theorem Turn.load?_offer (h : ∀ i < n, t.load? body i = none) :
    ∀ i < n + 1, t.load? (t.offer body n) i = none := by
  intro i hi
  unfold offer
  cases hload : t.load? body n with
  | none =>
    rcases Nat.lt_succ_iff_lt_or_eq.1 hi with hlt | rfl
    · exact h i hlt
    · exact hload
  | some load =>
    obtain ⟨j, arg, v, rfl, hcall, -, -, hkind⟩ := load?_eq_some hload
    have hslot := getElem?_decrypt (Array.getElem?_eq_some_iff.1 hcall).1 load
    simp only [Nat.add_sub_cancel]
    rcases Nat.lt_succ_iff_lt_or_eq.1 hi with hlt | rfl
    · rcases Nat.lt_succ_iff_lt_or_eq.1 hlt with hbefore | rfl
      · -- the slots that matter are before the edited ones
        cases i with
        | zero => rfl
        | succ k =>
          refine (load?_congr ?_ ?_).trans (h (k + 1) (by omega))
          · rw [hslot, if_neg (by omega), if_neg (by omega)]
          · rw [hslot, if_neg (by omega), if_neg (by omega)]
      · refine load?_eq_none_of_not_call ?_
        rw [hslot, if_neg (by omega), if_pos rfl]
        exact fun hnop => nop_ne_call _ (Option.some.inj hnop)
    · refine load?_eq_none_of_not_call ?_
      rw [hslot, if_pos rfl]
      exact fun hliteral => ne_call_of_literal hkind _ (Option.some.inj hliteral)

/-- A turn leaves nothing for another turn of the method. -/
theorem Turn.load?_run (t : Turn) (body : Array Instruction) (i : Nat) :
    t.load? (t.run body) i = none := by
  have hscan : ∀ n, ∀ i < n, t.load? ((List.range n).foldl t.offer body) i = none := by
    intro n
    induction n with
    | zero => exact fun i hi => absurd hi (Nat.not_lt_zero i)
    | succ n ih =>
      rw [List.range_succ, List.foldl_append]
      exact load?_offer ih
  by_cases hi : i < body.size
  · exact hscan body.size i hi
  · have hsize : (t.run body).size = body.size :=
      t.run_keeps (P := fun b => b.size = body.size)
        (fun b i hb => (t.size_offer b i).trans hb) rfl
    refine load?_eq_none_of_not_call ?_
    rw [Array.getElem?_eq_none (by omega)]
    exact fun hnone => nomatch hnone

/-- A turn spends the calls that it decrypts. -/
theorem Turn.run_spent (t : Turn) (body : Array Instruction) :
    ∃ n, Spent (Array.countP Instruction.isCall) n body (t.run body) := by
  refine t.run_keeps (P := fun b => ∃ n, Spent (Array.countP Instruction.isCall) n body b)
    (fun b i hb => ?_) ⟨0, .refl _ body⟩
  obtain ⟨n, hspent⟩ := hb
  obtain ⟨es, houtcome⟩ := t.offer_outcome default b i
  exact ⟨_, hspent.trans houtcome.spent⟩

theorem runTurns_spent (ts : List Turn) (body : Array Instruction) :
    ∃ n, Spent (Array.countP Instruction.isCall) n body (runTurns ts body) := by
  induction ts generalizing body with
  | nil => exact ⟨0, .refl _ body⟩
  | cons t rest ih =>
    obtain ⟨n, hturn⟩ := t.run_spent body
    obtain ⟨k, hrest⟩ := ih (t.run body)
    exact ⟨n + k, hturn.trans hrest⟩

/-! ## Turn after turn -/

theorem Turn.run_eq_self_iff : t.run body = body ↔ ∀ i, t.load? body i = none := by
  constructor
  · intro hsame i
    rw [← hsame]
    exact t.load?_run body i
  · intro hnone
    refine t.run_keeps (P := fun b => b = body) (fun b i hb => ?_) rfl
    rw [Turn.offer, hb, hnone i]

/-- Turns change nothing exactly if none of them has anything to decrypt: calls that are spent do
not come back. -/
theorem runTurns_eq_self_iff :
    runTurns ts body = body ↔ ∀ t ∈ ts, ∀ i, t.load? body i = none := by
  induction ts with
  | nil => exact iff_of_true rfl fun _ ht => absurd ht List.not_mem_nil
  | cons t rest ih =>
    rw [List.forall_mem_cons, ← Turn.run_eq_self_iff, ← ih, runTurns_cons]
    constructor
    · intro hsame
      obtain ⟨n, hturn⟩ := t.run_spent body
      obtain ⟨k, hrest⟩ := runTurns_spent rest (t.run body)
      have hnone : n = 0 := by
        have hfirst := hturn.total
        have hsecond := hrest.total
        rw [hsame] at hsecond
        omega
      have hidle : t.run body = body := hturn.idle hnone
      rw [hidle] at hsame
      exact ⟨hidle, hsame⟩
    · rintro ⟨hidle, hsame⟩
      rw [hidle, hsame]

/-- What a turn could still decrypt at the end is a call after one that a later turn has decrypted
to a constant. -/
theorem exists_later_turn {before after : List Turn} {load : Instruction}
    (h : t.load? (runTurns (before ++ t :: after) body) (n + 1) = some load) :
    ∃ u ∈ after, body[n]? = some (.call u.method.token) := by
  have hsplit : runTurns (before ++ t :: after) body =
      runTurns after (runTurns (before ++ [t]) body) := by
    rw [← runTurns_append, List.append_assoc, List.singleton_append]
  have hturn : runTurns (before ++ [t]) body = t.run (runTurns before body) :=
    runTurns_append before [t] body
  rw [hsplit] at h
  obtain ⟨_, arg, _, hn, hcall, hslot, hconst, -⟩ := Turn.load?_eq_some h
  obtain rfl := Nat.succ.inj hn
  have hbrought := @constant_of_runTurns after (runTurns (before ++ [t]) body) n
    (by rw [hslot]; exact hconst)
  rcases hbrought with hstay | ⟨u, hu, hother⟩
  · -- had the constant been there at its turn, it would have decrypted the call
    have hsame := Turn.load?_congr (t := t) (hcall.trans (call_of_runTurns hcall).symm) hstay
    rw [h, hturn, Turn.load?_run] at hsame
    cases hsame
  · exact ⟨u, hu, call_of_runTurns hother⟩

/-- No turn has anything to decrypt at the end exactly if no call was left by its own turn whose
constant a later turn has brought up. -/
theorem runTurns_settled_iff : (∀ t ∈ ts, ∀ i, t.load? (runTurns ts body) i = none) ↔
    ts.Pairwise fun t u => ∀ n, body[n + 1]? = some (.call t.method.token) →
      body[n]? = some (.call u.method.token) →
        ((runTurns ts body)[n]?.bind Instruction.constant?).bind t.literal? = none := by
  constructor
  · intro hsettled
    refine List.pairwise_of_forall_mem_list fun t ht u _ n hcall _ => ?_
    by_contra hliteral
    obtain ⟨load, hload⟩ := Option.ne_none_iff_exists'.1 hliteral
    obtain ⟨arg, hconst, -⟩ := Option.bind_eq_some_iff.1 hload
    have hleft : (runTurns ts body)[n + 1]? = some (.call t.method.token) :=
      call_runTurns hcall (by simp [hconst])
    have hnone := hsettled t ht (n + 1)
    rw [Turn.load?, if_pos hleft] at hnone
    exact hliteral hnone
  · intro hpairs t ht i
    by_contra hopen
    obtain ⟨load, hload⟩ := Option.ne_none_iff_exists'.1 hopen
    obtain ⟨n, -, -, rfl, hcall, -⟩ := Turn.load?_eq_some hload
    obtain ⟨before, after, rfl⟩ := List.append_of_mem ht
    obtain ⟨u, hu, hother⟩ := exists_later_turn hload
    have hpair := (List.pairwise_cons.1 (List.pairwise_append.1 hpairs).2.1).1 u hu n
      (call_of_runTurns hcall) hother
    rw [Turn.load?, if_pos hcall, hpair] at hload
    cases hload

/-- Turns that are repeated change nothing exactly if no later turn has brought up a constant for a
call that an earlier one left. -/
theorem runTurns_idem_iff : runTurns ts (runTurns ts body) = runTurns ts body ↔
    ts.Pairwise fun t u => ∀ n, body[n + 1]? = some (.call t.method.token) →
      body[n]? = some (.call u.method.token) →
        ((runTurns ts body)[n]?.bind Instruction.constant?).bind t.literal? = none :=
  runTurns_eq_self_iff.trans runTurns_settled_iff

end Unmask.Decrypt
