import Mathlib.Data.List.Forall2
import Unmask.Module.Edit

/-!
# Laws of the editors

Both editors run a step over every slot of every body and thread a state. What holds of one step
holds of a whole edit:

* `scanModule_forall₂`: a relation that every step keeps between old and new body holds between
  the bodies before and after;
* `scanModule_simulates`: two edits whose steps stay in step from related states give the same
  module, the same count and related states.
-/

namespace Unmask

variable {α σ τ : Type}

/-! ## Threading a state -/

theorem mapState_forall₂ {R : α → α → Prop} {f : α → σ → α × σ} (h : ∀ a s, R a (f a s).1)
    (l : List α) (s : σ) : List.Forall₂ R l (mapState f l s).1 := by
  induction l generalizing s with
  | nil => exact .nil
  | cons a rest ih => exact .cons (h a s) (ih (f a s).2)

theorem mapState_eq_map {f : α → σ → α × σ} {g : α → α} (h : ∀ a s, (f a s).1 = g a)
    (l : List α) (s : σ) : (mapState f l s).1 = l.map g := by
  induction l generalizing s with
  | nil => rfl
  | cons a rest ih =>
    rw [List.map_cons, ← h a s, ← ih (f a s).2]
    rfl

theorem mapState_simulates {R : σ → τ → Prop} {f : α → σ → α × σ} {g : α → τ → α × τ}
    (h : ∀ a s t, R s t → (f a s).1 = (g a t).1 ∧ R (f a s).2 (g a t).2) (l : List α) {s : σ}
    {t : τ} (hst : R s t) :
    (mapState f l s).1 = (mapState g l t).1 ∧ R (mapState f l s).2 (mapState g l t).2 := by
  induction l generalizing s t with
  | nil => exact ⟨rfl, hst⟩
  | cons a rest ih =>
    obtain ⟨hhead, hnext⟩ := h a s t hst
    obtain ⟨htail, hlast⟩ := ih hnext
    refine ⟨?_, hlast⟩
    simp only [mapState, hhead, htail]

theorem mapState_append (f : α → σ → α × σ) (l l' : List α) (s : σ) :
    mapState f (l ++ l') s = ((mapState f l s).1 ++ (mapState f l' (mapState f l s).2).1,
      (mapState f l' (mapState f l s).2).2) := by
  induction l generalizing s with
  | nil => rfl
  | cons a rest ih => simp only [List.cons_append, mapState, ih]

/-! ## Editing methods -/

/-- The methods are the same but for their bodies, which are both missing or else related. -/
structure MethodDef.Framed (R : Array Instruction → Array Instruction → Prop) (d d' : MethodDef) :
    Prop where
  token : d'.token = d.token
  name : d'.name = d.name
  flags : d'.flags = d.flags
  signature : d'.signature = d.signature
  body : Option.Rel R d.body d'.body

/-- The types are the same but for the bodies of their methods, which are related in turn. -/
structure TypeDef.Framed (R : Array Instruction → Array Instruction → Prop) (ty ty' : TypeDef) :
    Prop where
  token : ty'.token = ty.token
  namespaceName : ty'.namespaceName = ty.namespaceName
  name : ty'.name = ty.name
  enclosing : ty'.enclosing = ty.enclosing
  flags : ty'.flags = ty.flags
  isDelegate : ty'.isDelegate = ty.isDelegate
  methods : List.Forall₂ (MethodDef.Framed R) ty.methods ty'.methods

/-- The edit of one type in an edit of all methods. -/
def TypeDef.editMethods (f : MethodDef → σ → MethodDef × σ) (ty : TypeDef) (s : σ) : TypeDef × σ :=
  ({ ty with methods := (mapState f ty.methods s).1 }, (mapState f ty.methods s).2)

theorem editMethods_eq (f : MethodDef → σ → MethodDef × σ) (m : Module) (s : σ) :
    m.editMethods f s = ({ m with types := (mapState (TypeDef.editMethods f) m.types s).1 },
      (mapState (TypeDef.editMethods f) m.types s).2) := rfl

/-- The types do not matter to an edit of all methods: it goes through them in module order. -/
theorem editMethods_methods (f : MethodDef → σ → MethodDef × σ) (m : Module) (s : σ) :
    (m.editMethods f s).1.methods = (mapState f m.methods s).1 ∧
      (m.editMethods f s).2 = (mapState f m.methods s).2 := by
  rw [editMethods_eq]
  unfold Module.methods
  induction m.types generalizing s with
  | nil => exact ⟨rfl, rfl⟩
  | cons ty rest ih =>
    obtain ⟨hmethods, hstate⟩ := ih (TypeDef.editMethods f ty s).2
    simp only [mapState, List.flatMap_cons, mapState_append]
    exact ⟨congrArg _ hmethods, hstate⟩

theorem editMethods_forall₂ {R : Array Instruction → Array Instruction → Prop}
    {f : MethodDef → σ → MethodDef × σ} (h : ∀ d s, MethodDef.Framed R d (f d s).1) (m : Module)
    (s : σ) : List.Forall₂ (TypeDef.Framed R) m.types (m.editMethods f s).1.types := by
  have hty : ∀ ty s, TypeDef.Framed R ty (TypeDef.editMethods f ty s).1 := fun ty s =>
    ⟨rfl, rfl, rfl, rfl, rfl, rfl, mapState_forall₂ h ty.methods s⟩
  exact mapState_forall₂ hty m.types s

theorem editMethods_eq_map {f : MethodDef → σ → MethodDef × σ} {g : MethodDef → MethodDef}
    (h : ∀ d s, (f d s).1 = g d) (m : Module) (s : σ) :
    (m.editMethods f s).1 =
      { m with types := m.types.map fun ty => { ty with methods := ty.methods.map g } } := by
  have hty : ∀ ty s, (TypeDef.editMethods f ty s).1 = { ty with methods := ty.methods.map g } := by
    intro ty s
    simp only [TypeDef.editMethods, mapState_eq_map h]
  rw [editMethods_eq, mapState_eq_map hty]

theorem editMethods_simulates {R : σ → τ → Prop} {f : MethodDef → σ → MethodDef × σ}
    {g : MethodDef → τ → MethodDef × τ}
    (h : ∀ d s t, R s t → (f d s).1 = (g d t).1 ∧ R (f d s).2 (g d t).2) (m : Module) {s : σ}
    {t : τ} (hst : R s t) :
    (m.editMethods f s).1 = (m.editMethods g t).1 ∧
      R (m.editMethods f s).2 (m.editMethods g t).2 := by
  have hty : ∀ ty s t, R s t → (TypeDef.editMethods f ty s).1 = (TypeDef.editMethods g ty t).1 ∧
      R (TypeDef.editMethods f ty s).2 (TypeDef.editMethods g ty t).2 := by
    intro ty s t hst
    obtain ⟨hmethods, hstate⟩ := mapState_simulates h ty.methods hst
    exact ⟨by simp only [TypeDef.editMethods, hmethods], hstate⟩
  obtain ⟨htypes, hstate⟩ := mapState_simulates hty m.types hst
  exact ⟨by simp only [editMethods_eq, htypes], hstate⟩

/-! ## Scanning the slots -/

/-- The edit of one method in a scan. -/
def scanMethod (step : MethodDef → Scan σ → Nat → Scan σ) (d : MethodDef)
    (acc : σ × Nat × List LogRecord) : MethodDef × σ × Nat × List LogRecord :=
  match d.body with
  | none => (d, acc)
  | some body =>
    let scan := (List.range body.size).foldl (step d) ⟨body, acc.1, acc.2.1, acc.2.2⟩
    ({ d with body := some scan.body }, scan.state, scan.count, scan.dropped)

theorem scanModule_eq (step : MethodDef → Scan σ → Nat → Scan σ) (m : Module) (s : σ) :
    scanModule step m s =
      let edited := m.editMethods (scanMethod step) (s, 0, [])
      ⟨edited.1, edited.2.1, edited.2.2.1, edited.2.2.2⟩ := rfl

theorem foldl_step_body {R : Array Instruction → Array Instruction → Prop} (hrefl : ∀ b, R b b)
    (htrans : ∀ a b c, R a b → R b c → R a c) {step : Scan σ → Nat → Scan σ}
    (h : ∀ scan i, R scan.body (step scan i).body) (l : List Nat) (scan : Scan σ) :
    R scan.body (l.foldl step scan).body := by
  induction l generalizing scan with
  | nil => exact hrefl _
  | cons i rest ih => exact htrans _ _ _ (h scan i) (ih (step scan i))

/-- What every step keeps between the old body and the new one, a whole edit keeps. -/
theorem scanModule_forall₂ {R : Array Instruction → Array Instruction → Prop}
    (hrefl : ∀ b, R b b) (htrans : ∀ a b c, R a b → R b c → R a c)
    {step : MethodDef → Scan σ → Nat → Scan σ}
    (h : ∀ d scan i, R scan.body (step d scan i).body) (m : Module) (s : σ) :
    List.Forall₂ (TypeDef.Framed R) m.types (scanModule step m s).module.types := by
  refine editMethods_forall₂ (f := scanMethod step) (fun d acc => ?_) m (s, 0, [])
  unfold scanMethod
  split
  case h_1 hbody => exact ⟨rfl, rfl, rfl, rfl, by rw [hbody]; exact .none⟩
  case h_2 body hbody =>
    refine ⟨rfl, rfl, rfl, rfl, ?_⟩
    rw [hbody]
    exact .some (foldl_step_body hrefl htrans (h d) (List.range body.size)
      ⟨body, acc.1, acc.2.1, acc.2.2⟩)

@[simp] theorem scanModule_name (step : MethodDef → Scan σ → Nat → Scan σ) (m : Module) (s : σ) :
    (scanModule step m s).module.name = m.name := rfl

@[simp] theorem scanModule_memberRefs (step : MethodDef → Scan σ → Nat → Scan σ) (m : Module)
    (s : σ) : (scanModule step m s).module.memberRefs = m.memberRefs := rfl

/-- Two scans are in step: same body, same count, same dropped edits, related states. -/
structure Scan.Aligned (R : σ → τ → Prop) (a : Scan σ) (b : Scan τ) : Prop where
  body : a.body = b.body
  state : R a.state b.state
  count : a.count = b.count
  dropped : a.dropped = b.dropped

theorem foldl_step_aligned {R : σ → τ → Prop} {f : Scan σ → Nat → Scan σ}
    {g : Scan τ → Nat → Scan τ}
    (h : ∀ a b i, Scan.Aligned R a b → Scan.Aligned R (f a i) (g b i)) (l : List Nat)
    {a : Scan σ} {b : Scan τ} (hab : Scan.Aligned R a b) :
    Scan.Aligned R (l.foldl f a) (l.foldl g b) := by
  induction l generalizing a b with
  | nil => exact hab
  | cons i rest ih => exact ih (h a b i hab)

/-- Two edits are in step: same module, same count, same dropped edits, related states. -/
structure Edited.Aligned (R : σ → τ → Prop) (a : Edited σ) (b : Edited τ) : Prop where
  module : a.module = b.module
  state : R a.state b.state
  count : a.count = b.count
  dropped : a.dropped = b.dropped

/-- Edits whose steps stay in step are in step at the end. -/
theorem scanModule_simulates {R : σ → τ → Prop} {f : MethodDef → Scan σ → Nat → Scan σ}
    {g : MethodDef → Scan τ → Nat → Scan τ}
    (h : ∀ d a b i, Scan.Aligned R a b → Scan.Aligned R (f d a i) (g d b i)) (m : Module) {s : σ}
    {t : τ} (hst : R s t) : Edited.Aligned R (scanModule f m s) (scanModule g m t) := by
  -- the states of the two method edits, each with its count and its dropped edits
  let Both (x : σ × Nat × List LogRecord) (y : τ × Nat × List LogRecord) : Prop :=
    R x.1 y.1 ∧ x.2 = y.2
  have hmethod : ∀ d x y, Both x y → (scanMethod f d x).1 = (scanMethod g d y).1 ∧
      Both (scanMethod f d x).2 (scanMethod g d y).2 := by
    intro d x y hxy
    cases hbody : d.body with
    | none => simpa [scanMethod, hbody] using hxy
    | some body =>
      have hscan := foldl_step_aligned (h d) (List.range body.size)
        (a := ⟨body, x.1, x.2.1, x.2.2⟩) (b := ⟨body, y.1, y.2.1, y.2.2⟩)
        ⟨rfl, hxy.1, by rw [hxy.2], by rw [hxy.2]⟩
      refine ⟨?_, ?_, ?_⟩
      · simp [scanMethod, hbody, hscan.body]
      · simpa [scanMethod, hbody] using hscan.state
      · simp [scanMethod, hbody, hscan.count, hscan.dropped]
  obtain ⟨hmodule, hstate, hrest⟩ :=
    editMethods_simulates hmethod m (s := (s, 0, [])) (t := (t, 0, [])) ⟨hst, rfl⟩
  exact ⟨hmodule, hstate, congrArg Prod.fst hrest, congrArg Prod.snd hrest⟩

theorem patchSlot_body (f : Patcher σ) (d : MethodDef) (scan : Scan σ) (i : Nat) :
    (patchSlot f d scan i).body =
      applyPatches ((f ⟨{ d with body := some scan.body }, i⟩ scan.state).1.getD []) scan.body := by
  unfold patchSlot
  rcases f ⟨{ d with body := some scan.body }, i⟩ scan.state with ⟨_ | ps, s⟩
  · rfl
  · rfl

/-- Patchers that give the same edits from related states leave modules in step. -/
theorem patch_simulates {R : σ → τ → Prop} {f : Patcher σ} {g : Patcher τ}
    (h : ∀ site s t, R s t → (f site s).1 = (g site t).1 ∧ R (f site s).2 (g site t).2)
    (m : Module) {s : σ} {t : τ} (hst : R s t) :
    Edited.Aligned R (m.patch f s) (m.patch g t) := by
  refine scanModule_simulates (fun d a b i hab => ?_) m hst
  obtain ⟨hbody, hstate, hcount, hdropped⟩ := hab
  obtain ⟨hedits, hnext⟩ := h ⟨{ d with body := some b.body }, i⟩ a.state b.state hstate
  unfold patchSlot
  rw [hbody]
  generalize f ⟨{ d with body := some b.body }, i⟩ a.state = x at hedits hnext
  generalize g ⟨{ d with body := some b.body }, i⟩ b.state = y at hedits hnext
  obtain ⟨edits, s'⟩ := x
  obtain ⟨edits', t'⟩ := y
  obtain rfl : edits = edits' := hedits
  cases edits with
  | none => exact { body := rfl, state := hnext, count := hcount, dropped := hdropped }
  | some ps =>
    exact { body := rfl, state := hnext, count := by simp [hcount], dropped := by simp [hdropped] }

/-- What every question of a patcher keeps of the state, a whole patch keeps. -/
theorem patch_keeps {P : σ → Prop} {f : Patcher σ} (h : ∀ site s, P s → P (f site s).2) (m : Module)
    {s : σ} (hs : P s) : P (m.patch f s).state := by
  have hkept := patch_simulates (R := fun a b => a = b ∧ P a) (f := f) (g := f) (t := s)
    (fun site a b hab => ⟨by rw [hab.1], by rw [hab.1], h site a hab.2⟩) m ⟨rfl, hs⟩
  exact hkept.state.2

/-- The patcher with a list of what is seen at the sites, each in the state in which it was
offered. -/
def Patcher.observed {ω : Type} (f : Patcher σ) (see : Site → σ → Option ω) :
    Patcher (σ × List ω) :=
  fun site s => ((f site s.1).1, (f site s.1).2, s.2 ++ (see site s.1).toList)

/-- Watching a patch makes no difference to it. -/
theorem patch_observed {ω : Type} (f : Patcher σ) (see : Site → σ → Option ω) (m : Module) (s : σ)
    (seen : List ω) :
    Edited.Aligned (fun a b => a.1 = b) (m.patch (f.observed see) (s, seen)) (m.patch f s) :=
  patch_simulates (fun _ _ _ h => h ▸ ⟨rfl, rfl⟩) m rfl

section Observed

variable {ω : Type} {R : List ω → MethodDef → MethodDef → Prop} {f : Patcher σ}
  {see : Site → σ → Option ω}

theorem patchSlot_observed (f : Patcher σ) (see : Site → σ → Option ω) (d : MethodDef)
    (scan : Scan (σ × List ω)) (i : Nat) :
    let plain := patchSlot f d ⟨scan.body, scan.state.1, scan.count, scan.dropped⟩ i
    let next := patchSlot (f.observed see) d scan i
    next.body = plain.body ∧ next.state = (plain.state, scan.state.2 ++
      (see ⟨{ d with body := some scan.body }, i⟩ scan.state.1).toList) := by
  unfold patchSlot Patcher.observed
  rcases f ⟨{ d with body := some scan.body }, i⟩ scan.state.1 with ⟨_ | ps, s⟩
  · exact ⟨rfl, rfl⟩
  · exact ⟨rfl, rfl⟩

variable (hrefl : ∀ d, R [] d d)
  (htrans : ∀ l l' d d' d'', R l d d' → R l' d' d'' → R (l ++ l') d d'')
  (hslot : ∀ (d : MethodDef) (scan : Scan σ) i,
    R (see ⟨{ d with body := some scan.body }, i⟩ scan.state).toList
      { d with body := some scan.body } { d with body := some (patchSlot f d scan i).body })

include hrefl htrans hslot

theorem foldl_patchSlot_observed (d : MethodDef) (l : List Nat) (scan : Scan (σ × List ω)) :
    let done := l.foldl (patchSlot (f.observed see) d) scan
    ∃ seen, done.state.2 = scan.state.2 ++ seen ∧
      R seen { d with body := some scan.body } { d with body := some done.body } := by
  induction l generalizing scan with
  | nil => exact ⟨[], (List.append_nil _).symm, hrefl _⟩
  | cons i rest ih =>
    obtain ⟨hbody, hstate⟩ := patchSlot_observed f see d scan i
    have hhead := hslot d ⟨scan.body, scan.state.1, scan.count, scan.dropped⟩ i
    obtain ⟨later, hlater, hrest⟩ := ih (patchSlot (f.observed see) d scan i)
    rw [hstate, List.append_assoc] at hlater
    rw [← hbody] at hhead
    exact ⟨_, hlater, htrans _ _ _ _ _ hhead hrest⟩

theorem scanMethod_observed (d : MethodDef) (acc : (σ × List ω) × Nat × List LogRecord) :
    let done := scanMethod (patchSlot (f.observed see)) d acc
    ∃ seen, done.2.1.2 = acc.1.2 ++ seen ∧ R seen d done.1 := by
  unfold scanMethod
  cases hbody : d.body with
  | none => exact ⟨[], (List.append_nil _).symm, hrefl d⟩
  | some body =>
    obtain ⟨seen, hseen, hscan⟩ := foldl_patchSlot_observed hrefl htrans hslot d
      (List.range body.size) ⟨body, acc.1, acc.2.1, acc.2.2⟩
    refine ⟨seen, hseen, ?_⟩
    simp only at hscan
    rwa [← hbody] at hscan

/-- What every slot keeps between a method before and after it, given what is seen at it, a whole
patch keeps between the methods, given all that is seen. -/
theorem patch_observed_forall₂ (hmono : ∀ l l' d d', l ⊆ l' → R l d d' → R l' d d') (m : Module)
    (s : σ) : List.Forall₂ (R (m.patch (f.observed see) (s, [])).state.2) m.methods
      (m.patch f s).module.methods := by
  have hmethods : ∀ ds (acc : (σ × List ω) × Nat × List LogRecord),
      let done := mapState (scanMethod (patchSlot (f.observed see))) ds acc
      ∃ seen, done.2.1.2 = acc.1.2 ++ seen ∧ List.Forall₂ (R seen) ds done.1 := by
    intro ds
    induction ds with
    | nil => exact fun acc => ⟨[], (List.append_nil _).symm, .nil⟩
    | cons d rest ih =>
      intro acc
      obtain ⟨own, hown, hhead⟩ := scanMethod_observed hrefl htrans hslot d acc
      obtain ⟨later, hlater, hrest⟩ := ih (scanMethod (patchSlot (f.observed see)) d acc).2
      rw [hown, List.append_assoc] at hlater
      refine ⟨own ++ later, hlater, .cons ?_ ?_⟩
      · exact hmono _ _ _ _ (List.subset_append_left own later) hhead
      · exact hrest.imp fun _ _ => hmono _ _ _ _ (List.subset_append_right own later)
  obtain ⟨seen, hseen, hrelated⟩ := hmethods m.methods ((s, []), 0, [])
  obtain ⟨hleft, hstate⟩ :=
    editMethods_methods (scanMethod (patchSlot (f.observed see))) m ((s, []), 0, [])
  have hall : (m.patch (f.observed see) (s, [])).state.2 = seen := by
    rw [← hstate] at hseen
    exact hseen
  rw [hall, ← (patch_observed f see m s []).module]
  exact hleft ▸ hrelated

end Observed

/-! ## Mapping the instructions -/

def MethodDef.mapCode (f : Instruction → Instruction) (d : MethodDef) : MethodDef :=
  { d with body := d.body.map (Array.map f) }

def TypeDef.mapCode (f : Instruction → Instruction) (ty : TypeDef) : TypeDef :=
  { ty with methods := ty.methods.map (MethodDef.mapCode f) }

def Module.mapCode (f : Instruction → Instruction) (m : Module) : Module :=
  { m with types := m.types.map (TypeDef.mapCode f) }

/-! ## Counting the edits -/

/-- The instructions of all bodies. -/
def Module.slots (m : Module) : List Instruction := m.methods.flatMap fun d => d.code.toList

theorem Module.mem_slots {m : Module} {i : Instruction} :
    i ∈ m.slots ↔ ∃ d ∈ m.methods, i ∈ d.code := by
  simp [slots]

/-- A count that each item raises by what it contributes is raised by what the list contributes. -/
theorem mapState_count {β : Type} {f : α → σ → α × σ} (count : σ → Nat) {items : α → List β}
    {p : β → Bool} (h : ∀ a s, count (f a s).2 = count s + (items a).countP p) (l : List α)
    (s : σ) : count (mapState f l s).2 = count s + (l.flatMap items).countP p := by
  induction l generalizing s with
  | nil => rfl
  | cons a rest ih =>
    have hrest : count (mapState f (a :: rest) s).2 =
        count (f a s).2 + (rest.flatMap items).countP p := ih (f a s).2
    rw [hrest, h, List.flatMap_cons, List.countP_append, Nat.add_assoc]

theorem editMethods_count {β : Type} {f : MethodDef → σ → MethodDef × σ} (count : σ → Nat)
    {items : MethodDef → List β} {p : β → Bool}
    (h : ∀ d s, count (f d s).2 = count s + (items d).countP p) (m : Module) (s : σ) :
    count (m.editMethods f s).2 = count s + (m.methods.flatMap items).countP p := by
  rw [Module.methods, List.flatMap_assoc]
  exact mapState_count (f := TypeDef.editMethods f) count
    (fun ty s => mapState_count count h ty.methods s) m.types s

end Unmask
