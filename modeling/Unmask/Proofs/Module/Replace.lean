import Unmask.Proofs.Module.Edit

/-!
# Replacing instructions

`replace` is a patch that asks for at most one edit at a site, in the slot itself: it leaves the
same module and puts the same questions to its caller, in the same order.

The body changes while it is scanned. Where neither the choice nor the replacement looks at the
body, that makes no difference: `replace` then maps the slots as they were, one after the other, and
counts those that were chosen.
-/

namespace Unmask

variable {α σ : Type} {choose : Chooser σ} {produce : Producer σ}

/-! ## Replacing is patching -/

/-- Asks for an edit of the slot itself where `choose` picks its instruction. -/
def Patcher.replacing (choose : Chooser σ) (produce : Producer σ) : Patcher σ := fun site s =>
  match choose site.method site.instruction s with
  | (false, s) => (none, s)
  | (true, s) =>
    let (new, s) := produce site.method site.instruction s
    (some [⟨site.index, new⟩], s)

/-- A question put to the caller of `replace`: whether to replace an instruction of a method, or by
what. The method has the body as it was at the time. -/
inductive Question where
  | choose (d : MethodDef) (i : Instruction)
  | produce (d : MethodDef) (i : Instruction)
  deriving DecidableEq, Repr

/-- The chooser with a list of the questions put to it. -/
def Chooser.logged (choose : Chooser σ) : Chooser (σ × List Question) := fun d i s =>
  ((choose d i s.1).1, (choose d i s.1).2, s.2 ++ [.choose d i])

/-- The producer with a list of the questions put to it. -/
def Producer.logged (produce : Producer σ) : Producer (σ × List Question) := fun d i s =>
  ((produce d i s.1).1, (produce d i s.1).2, s.2 ++ [.produce d i])

theorem Site.instruction_eq {d : MethodDef} {body : Array Instruction} {i : Nat}
    {old : Instruction} (h : body[i]? = some old) :
    (Site.mk { d with body := some body } i).instruction = old := by
  show (body[i]?).getD .nop = old
  rw [h, Option.getD_some]

/-- In a slot of the body both editors do the same. -/
theorem patchSlot_replacing (d : MethodDef) (scan : Scan σ) {i : Nat} (hi : i < scan.body.size) :
    patchSlot (.replacing choose produce) d scan i = replaceSlot choose produce d scan i := by
  obtain ⟨old, hold⟩ : ∃ old, scan.body[i]? = some old := ⟨_, Array.getElem?_eq_getElem hi⟩
  unfold patchSlot replaceSlot Patcher.replacing
  rw [Site.instruction_eq hold, hold]
  rcases hc : choose { d with body := some scan.body } old scan.state with ⟨_ | _, s⟩
  · simp only [hc]
  · simp [hc, hi, applyPatches]

theorem size_replaceSlot (choose : Chooser σ) (produce : Producer σ) (d : MethodDef)
    (scan : Scan σ) (i : Nat) :
    (replaceSlot choose produce d scan i).body.size = scan.body.size := by
  unfold replaceSlot
  cases scan.body[i]? with
  | none => rfl
  | some old =>
    rcases hc : choose { d with body := some scan.body } old scan.state with ⟨_ | _, s⟩
    · simp only [hc]
    · simp [hc]

theorem foldl_patchSlot_replacing (choose : Chooser σ) (produce : Producer σ) (d : MethodDef)
    (l : List Nat) (scan : Scan σ) (hl : ∀ i ∈ l, i < scan.body.size) :
    l.foldl (patchSlot (.replacing choose produce) d) scan =
      l.foldl (replaceSlot choose produce d) scan := by
  induction l generalizing scan with
  | nil => rfl
  | cons i rest ih =>
    obtain ⟨hi, hrest⟩ := List.forall_mem_cons.1 hl
    rw [List.foldl_cons, List.foldl_cons, patchSlot_replacing d scan hi]
    exact ih _ (by simpa only [size_replaceSlot] using hrest)

theorem patch_replacing (choose : Chooser σ) (produce : Producer σ) (m : Module) (s : σ) :
    m.patch (.replacing choose produce) s = m.replace choose produce s := by
  have hmethod : scanMethod (patchSlot (.replacing choose produce)) =
      scanMethod (replaceSlot choose produce) := by
    funext d acc
    unfold scanMethod
    cases d.body with
    | none => rfl
    | some body =>
      have hscan := foldl_patchSlot_replacing choose produce d (List.range body.size)
        ⟨body, acc.1, acc.2.1, acc.2.2⟩ fun i hi => List.mem_range.1 hi
      simp only [hscan]
  rw [Module.patch, Module.replace, scanModule_eq, scanModule_eq, hmethod]

/-- Writing down the questions makes no difference to the edit. -/
theorem replace_logged (choose : Chooser σ) (produce : Producer σ) (m : Module) (s : σ)
    (asked : List Question) :
    Edited.Aligned (fun a b => a.1 = b) (m.replace choose.logged produce.logged (s, asked))
      (m.replace choose produce s) := by
  rw [← patch_replacing, ← patch_replacing]
  refine patch_simulates (fun site a t hat => ?_) m rfl
  subst hat
  unfold Patcher.replacing Chooser.logged Producer.logged
  rcases choose site.method site.instruction a.1 with ⟨_ | _, u⟩
  · exact ⟨rfl, rfl⟩
  · exact ⟨rfl, rfl⟩

/-! ## Mapping the slots -/

/-- The answers do not depend on the body of the method. -/
def IgnoresBody (f : MethodDef → Instruction → σ → α × σ) : Prop :=
  ∀ d body i s, f { d with body } i s = f d i s

/-- Maps the slots of a method from the first to the last, threading a state. -/
def MethodDef.mapSlots (f : MethodDef → Instruction → σ → Instruction × σ) (d : MethodDef)
    (s : σ) : MethodDef × σ :=
  match d.body with
  | none => (d, s)
  | some body =>
    ({ d with body := some (mapState (f d) body.toList s).1.toArray },
      (mapState (f d) body.toList s).2)

/-- Maps the slots of all methods in module order, threading a state. -/
def Module.mapSlots (f : MethodDef → Instruction → σ → Instruction × σ) (m : Module) (s : σ) :
    Module × σ :=
  m.editMethods (MethodDef.mapSlots f) s

/-- What becomes of one slot, with the number of slots chosen so far. -/
def replacement (choose : Chooser σ) (produce : Producer σ) (d : MethodDef) (i : Instruction)
    (s : σ × Nat) : Instruction × σ × Nat :=
  match choose d i s.1 with
  | (false, t) => (i, t, s.2)
  | (true, t) => ((produce d i t).1, (produce d i t).2, s.2 + 1)

theorem replaceSlot_eq (hchoose : IgnoresBody choose) (hproduce : IgnoresBody produce)
    (d : MethodDef) (before after : List Instruction) (i : Instruction) (s : σ) (n : Nat)
    (dropped : List LogRecord) :
    replaceSlot choose produce d ⟨(before ++ i :: after).toArray, s, n, dropped⟩ before.length =
      let new := replacement choose produce d i (s, n)
      ⟨(before ++ new.1 :: after).toArray, new.2.1, new.2.2, dropped⟩ := by
  have hold : (before ++ i :: after).toArray[before.length]? = some i := by simp
  unfold replaceSlot replacement
  simp only [hold, hchoose d, hproduce d]
  rcases choose d i s with ⟨_ | _, t⟩
  · rfl
  · simp

/-- The slots that are still to come are as they were, and those before are not looked at again. -/
theorem foldl_replaceSlot_eq (hchoose : IgnoresBody choose) (hproduce : IgnoresBody produce)
    (d : MethodDef) (before after : List Instruction) (s : σ) (n : Nat)
    (dropped : List LogRecord) :
    (List.range' before.length after.length).foldl (replaceSlot choose produce d)
        ⟨(before ++ after).toArray, s, n, dropped⟩ =
      let mapped := mapState (replacement choose produce d) after (s, n)
      ⟨(before ++ mapped.1).toArray, mapped.2.1, mapped.2.2, dropped⟩ := by
  induction after generalizing before s n with
  | nil => rfl
  | cons i rest ih =>
    let new := replacement choose produce d i (s, n)
    have hrest := ih (before ++ [new.1]) new.2.1 new.2.2
    simp only [List.length_append, List.length_singleton, List.append_assoc,
      List.singleton_append] at hrest
    rw [List.length_cons, List.range'_succ, List.foldl_cons,
      replaceSlot_eq hchoose hproduce d before rest i s n dropped]
    exact hrest

theorem scanMethod_replaceSlot (hchoose : IgnoresBody choose) (hproduce : IgnoresBody produce)
    (d : MethodDef) (s : σ) (n : Nat) (dropped : List LogRecord) :
    scanMethod (replaceSlot choose produce) d (s, n, dropped) =
      let mapped := d.mapSlots (replacement choose produce) (s, n)
      (mapped.1, mapped.2.1, mapped.2.2, dropped) := by
  unfold scanMethod MethodDef.mapSlots
  cases d.body with
  | none => rfl
  | some body =>
    have hscan := foldl_replaceSlot_eq hchoose hproduce d [] body.toList s n dropped
    simp only [List.nil_append, List.length_nil, Array.length_toList, Array.toArray_toList,
      ← List.range_eq_range'] at hscan
    simp only [hscan]

/-- Where neither the choice nor the replacement looks at the body, `replace` maps the slots of the
module as they were and counts those chosen. -/
theorem replace_eq_mapSlots (hchoose : IgnoresBody choose) (hproduce : IgnoresBody produce)
    (m : Module) (s : σ) :
    let done := m.replace choose produce s
    m.mapSlots (replacement choose produce) (s, 0) = (done.module, done.state, done.count) := by
  let Same (x : σ × Nat) (y : σ × Nat × List LogRecord) : Prop := x = (y.1, y.2.1)
  have hmethod : ∀ d x y, Same x y →
      (MethodDef.mapSlots (replacement choose produce) d x).1 =
          (scanMethod (replaceSlot choose produce) d y).1 ∧
        Same (MethodDef.mapSlots (replacement choose produce) d x).2
          (scanMethod (replaceSlot choose produce) d y).2 := by
    rintro d x ⟨t, n, dropped⟩ rfl
    rw [scanMethod_replaceSlot hchoose hproduce]
    exact ⟨rfl, rfl⟩
  obtain ⟨hmodule, hstate⟩ :=
    editMethods_simulates hmethod m (s := (s, 0)) (t := (s, 0, [])) rfl
  exact Prod.ext hmodule hstate

/-! ## Choices that depend on the slot alone -/

/-- Maps the instructions of a module, each with its method at hand. -/
def Module.mapInstructions (f : MethodDef → Instruction → Instruction) (m : Module) : Module :=
  { m with types := m.types.map fun ty =>
      { ty with methods := ty.methods.map fun d => d.mapCode (f d) } }

/-- The instructions of all bodies, each with its method. -/
def Module.instructions (m : Module) : List (MethodDef × Instruction) :=
  m.methods.flatMap fun d => d.code.toList.map fun i => (d, i)

theorem Module.countP_instructions (m : Module) (p : Instruction → Bool) :
    m.instructions.countP (fun x => p x.2) = m.slots.countP p := by
  simp only [instructions, slots, List.countP_flatMap, List.countP_map, Function.comp_def]

section Slots

variable {pick : MethodDef → Instruction → Bool} {new : MethodDef → Instruction → Instruction}

theorem replacement_fst (hpick : ∀ d i s, (choose d i s).1 = pick d i)
    (hnew : ∀ d i s, (produce d i s).1 = new d i) (d : MethodDef) (i : Instruction) (s : σ × Nat) :
    (replacement choose produce d i s).1 = if pick d i then new d i else i := by
  rw [← hpick d i s.1]
  unfold replacement
  rcases choose d i s.1 with ⟨_ | _, t⟩
  · rfl
  · exact hnew d i t

theorem replacement_count (hpick : ∀ d i s, (choose d i s).1 = pick d i) (produce : Producer σ)
    (d : MethodDef) (i : Instruction) (s : σ × Nat) :
    (replacement choose produce d i s).2.2 = s.2 + [(d, i)].countP fun x => pick x.1 x.2 := by
  rw [List.countP_singleton, ← hpick d i s.1]
  unfold replacement
  rcases choose d i s.1 with ⟨_ | _, t⟩
  · rfl
  · rfl

/-- A choice and a replacement that depend on the slot and its method alone make `replace` a map of
the instructions. -/
theorem replace_module_of_slots (hchoose : IgnoresBody choose) (hproduce : IgnoresBody produce)
    (hpick : ∀ d i s, (choose d i s).1 = pick d i) (hnew : ∀ d i s, (produce d i s).1 = new d i)
    (m : Module) (s : σ) :
    (m.replace choose produce s).module =
      m.mapInstructions fun d i => if pick d i then new d i else i := by
  have hmethod : ∀ (d : MethodDef) (t : σ × Nat), (d.mapSlots (replacement choose produce) t).1 =
      d.mapCode fun i => if pick d i then new d i else i := by
    intro d t
    cases hbody : d.body with
    | none =>
      cases d
      simp_all [MethodDef.mapSlots, MethodDef.mapCode]
    | some body =>
      simp [MethodDef.mapSlots, MethodDef.mapCode, hbody,
        mapState_eq_map (replacement_fst hpick hnew d), ← Array.toList_map]
  have hmodule := congrArg Prod.fst (replace_eq_mapSlots hchoose hproduce m s)
  exact hmodule.symm.trans (editMethods_eq_map hmethod m (s, 0))

/-- Then every slot chosen counts. -/
theorem replace_count_of_slots (hchoose : IgnoresBody choose) (hproduce : IgnoresBody produce)
    (hpick : ∀ d i s, (choose d i s).1 = pick d i) (m : Module) (s : σ) :
    (m.replace choose produce s).count = m.instructions.countP fun x => pick x.1 x.2 := by
  have hmethod : ∀ (d : MethodDef) (t : σ × Nat), (d.mapSlots (replacement choose produce) t).2.2 =
      t.2 + (d.code.toList.map fun i => (d, i)).countP fun x => pick x.1 x.2 := by
    intro d t
    cases hbody : d.body with
    | none => simp [MethodDef.mapSlots, MethodDef.code, hbody]
    | some body =>
      have hcount := mapState_count Prod.snd (replacement_count hpick produce d) body.toList t
      rw [← List.map_eq_flatMap] at hcount
      simpa [MethodDef.mapSlots, MethodDef.code, hbody] using hcount
  have hcount := editMethods_count Prod.snd hmethod m (s, 0)
  have hdone := congrArg (fun x => x.2.2) (replace_eq_mapSlots hchoose hproduce m s)
  exact hdone.symm.trans (hcount.trans (Nat.zero_add _))

end Slots

/-- To replace is to patch each slot chosen: both leave the same module, state and count and put the
same questions to the caller. Where the questions are answered without a look at the body, the slots
are mapped as they were, and those chosen are counted. -/
theorem replace_agrees_with_patch (choose : Chooser σ) (produce : Producer σ) (m : Module)
    (s : σ) :
    let done := m.replace choose produce s
    m.patch (.replacing choose produce) s = done ∧
      m.patch (.replacing choose.logged produce.logged) (s, []) =
        m.replace choose.logged produce.logged (s, []) ∧
      Edited.Aligned (fun a b => a.1 = b) (m.replace choose.logged produce.logged (s, [])) done ∧
      (IgnoresBody choose → IgnoresBody produce →
        m.mapSlots (replacement choose produce) (s, 0) = (done.module, done.state, done.count) ∧
        ∀ (pick : MethodDef → Instruction → Bool) (new : MethodDef → Instruction → Instruction),
          (∀ d i s, (choose d i s).1 = pick d i) → (∀ d i s, (produce d i s).1 = new d i) →
          done.module = m.mapInstructions (fun d i => if pick d i then new d i else i) ∧
          done.count = m.instructions.countP fun x => pick x.1 x.2) := by
  intro done
  refine ⟨patch_replacing choose produce m s, patch_replacing choose.logged produce.logged m _,
    replace_logged choose produce m s [], fun hchoose hproduce => ⟨?_, ?_⟩⟩
  · exact replace_eq_mapSlots hchoose hproduce m s
  · intro pick new hpick hnew
    exact ⟨replace_module_of_slots hchoose hproduce hpick hnew m s,
      replace_count_of_slots hchoose hproduce hpick m s⟩

/-- Blanking the calls of a method, with a count of the questions. -/
theorem replace_agrees_with_patch_blanking :
    let choose : Chooser Nat := fun _ i n => (i.isCall, n + 1)
    let produce : Producer Nat := fun _ _ n => (.nop, n + 1)
    let main : MethodDef := ⟨⟨0x06000001⟩, "Main", 0, ⟨false, .void, []⟩,
      some #[⟨.ldnull, .none⟩, .call ⟨0x06000002⟩]⟩
    let m : Module := { types := [{ token := ⟨0x02000001⟩, name := "Program", methods := [main] }] }
    IgnoresBody choose ∧ IgnoresBody produce ∧
      (m.replace choose produce 0).module =
        m.mapInstructions (fun _ i => if i.isCall then .nop else i) ∧
      (m.replace choose produce 0).count = m.instructions.countP fun x => x.2.isCall := by
  intro choose produce main m
  have hchoose : IgnoresBody choose := fun _ _ _ _ => rfl
  have hproduce : IgnoresBody produce := fun _ _ _ _ => rfl
  obtain ⟨-, -, -, hslots⟩ := replace_agrees_with_patch choose produce m 0
  obtain ⟨-, hplain⟩ := hslots hchoose hproduce
  exact ⟨hchoose, hproduce,
    hplain (fun _ i => i.isCall) (fun _ _ => .nop) (fun _ _ _ => rfl) fun _ _ _ => rfl⟩

end Unmask
