import Unmask.Proofs.Module.Frame

/-!
# What a patcher is offered and what becomes of its edits

Whatever a patcher answers, every slot of every body is offered to it once, in order, with its
earlier edits in place; the offers and the edits asked for tell the whole result. Edits of a slot
that is not there have no effect, and of several edits of one slot the last one stays.
-/

namespace Unmask

variable {σ : Type}

/-! ## The body under a list of edits -/

/-- The last edit of a slot. -/
def lastPatch? (ps : List Patch) (k : Nat) : Option Patch :=
  (ps.filter fun p => p.index = k).getLast?

/-- The body with the last edit of each slot in place. -/
def overlay (ps : List Patch) (body : Array Instruction) : Array Instruction :=
  body.mapIdx fun k old => ((lastPatch? ps k).map Patch.instruction).getD old

@[simp] theorem size_overlay (ps : List Patch) (body : Array Instruction) :
    (overlay ps body).size = body.size := Array.size_mapIdx

@[simp] theorem overlay_nil (body : Array Instruction) : overlay [] body = body := by
  apply Array.ext
  · exact size_overlay [] body
  · intro k _ _
    simp [overlay, lastPatch?]

theorem lastPatch?_append (ps qs : List Patch) (k : Nat) :
    lastPatch? (ps ++ qs) k = (lastPatch? qs k).or (lastPatch? ps k) := by
  rw [lastPatch?, List.filter_append, List.getLast?_append]
  rfl

theorem overlay_append (ps qs : List Patch) (body : Array Instruction) :
    overlay (ps ++ qs) body = overlay qs (overlay ps body) := by
  apply Array.ext
  · simp only [size_overlay]
  · intro k _ _
    simp only [overlay, Array.getElem_mapIdx, lastPatch?_append]
    cases lastPatch? qs k with
    | none => simp
    | some p => simp

theorem overlay_singleton (p : Patch) (body : Array Instruction) :
    overlay [p] body = body.setIfInBounds p.index p.instruction := by
  apply Array.ext
  · simp
  · intro k hk _
    rw [size_overlay] at hk
    by_cases haddressed : p.index = k
    · simp [overlay, lastPatch?, haddressed]
    · rw [Array.getElem_setIfInBounds_ne hk haddressed]
      simp [overlay, lastPatch?, haddressed]

/-- Edits made one after the other leave the last one of each slot. -/
theorem applyPatches_eq_overlay (ps : List Patch) (body : Array Instruction) :
    applyPatches ps body = overlay ps body := by
  induction ps generalizing body with
  | nil => exact (overlay_nil body).symm
  | cons p rest ih =>
    rw [← List.singleton_append, overlay_append, overlay_singleton, ← ih]
    rfl

/-! ## Offers -/

/-- A site as it was offered, and the answer. -/
structure Offer where
  site : Site
  answer : Option (List Patch)
  deriving DecidableEq, Repr

namespace Offer

def patches (o : Offer) : List Patch := o.answer.getD []

/-- The number of slots of the body the site is in. -/
def slots (o : Offer) : Nat := o.site.method.code.size

/-- Whether an edit was made. -/
def made (o : Offer) : Bool := o.patches.any fun p => p.index < o.slots

/-- The records of the edits that were not made. -/
def dropped (o : Offer) : List LogRecord :=
  (o.patches.filter fun p => ¬ p.index < o.slots).map (dropRecord o.site.method o.slots)

end Offer

/-- The patcher with a list of its offers. -/
def Patcher.booking (f : Patcher σ) : Patcher (σ × List Offer) :=
  f.observed fun site s => some ⟨site, (f site s).1⟩

/-- All offers of a patch, in their order. -/
def Module.offers (f : Patcher σ) (m : Module) (s : σ) : List Offer :=
  (m.patch f.booking (s, [])).state.2

/-- The patcher gives these answers when it is asked about these sites in turn, each time in the
state that it was left in. -/
inductive Answers (f : Patcher σ) : σ → List Offer → σ → Prop
  | nil (s : σ) : Answers f s [] s
  | cons {s t : σ} {o : Offer} {rest : List Offer} (answer : o.answer = (f o.site s).1)
      (later : Answers f (f o.site s).2 rest t) : Answers f s (o :: rest) t

theorem Answers.append {f : Patcher σ} {s t u : σ} {offers later : List Offer}
    (h : Answers f s offers t) (h' : Answers f t later u) : Answers f s (offers ++ later) u := by
  induction h with
  | nil => exact h'
  | cons answer _ ih => exact .cons answer (ih h')

/-- The offers of one body: each slot in turn, with the edits asked for at those before. -/
structure Offered (d : MethodDef) (body : Array Instruction) (offers : List Offer) : Prop where
  length : offers.length = body.size
  site : ∀ (i : Nat) (h : i < offers.length), offers[i].site =
    ⟨{ d with body := some (overlay ((offers.take i).flatMap Offer.patches) body) }, i⟩

/-- The offers of one method, and the method they leave. -/
inductive Round : MethodDef → List Offer → MethodDef → Prop
  | bodiless {d : MethodDef} (hbody : d.body = none) : Round d [] d
  | body {d : MethodDef} {body : Array Instruction} {offers : List Offer}
      (hbody : d.body = some body) (offered : Offered d body offers) :
      Round d offers { d with body := some (overlay (offers.flatMap Offer.patches) body) }

/-- The offers of some methods, one method after the other, and what they leave. -/
inductive Rounds : List MethodDef → List Offer → List MethodDef → Prop
  | nil : Rounds [] [] []
  | cons {d d' : MethodDef} {ds ds' : List MethodDef} {offers later : List Offer}
      (round : Round d offers d') (rest : Rounds ds later ds') :
      Rounds (d :: ds) (offers ++ later) (d' :: ds')

/-! ## Keeping the books -/

/-- An edit has gone from one state to another by these offers. -/
structure Booked (f : Patcher σ) (offers : List Offer)
    (a b : (σ × List Offer) × Nat × List LogRecord) : Prop where
  listed : b.1.2 = a.1.2 ++ offers
  answers : Answers f a.1.1 offers b.1.1
  count : b.2.1 = a.2.1 + offers.countP Offer.made
  dropped : b.2.2 = a.2.2 ++ offers.flatMap Offer.dropped

namespace Booked

variable {f : Patcher σ} {a b c : (σ × List Offer) × Nat × List LogRecord}
  {offers later : List Offer}

theorem refl (f : Patcher σ) (a : (σ × List Offer) × Nat × List LogRecord) : Booked f [] a a where
  listed := (List.append_nil _).symm
  answers := .nil _
  count := rfl
  dropped := (List.append_nil _).symm

theorem trans (h : Booked f offers a b) (h' : Booked f later b c) :
    Booked f (offers ++ later) a c where
  listed := by rw [h'.listed, h.listed, List.append_assoc]
  answers := h.answers.append h'.answers
  count := by rw [h'.count, h.count, List.countP_append, Nat.add_assoc]
  dropped := by rw [h'.dropped, h.dropped, List.flatMap_append, List.append_assoc]

end Booked

/-- What a scan hands on to the next method. -/
def Scan.rest (scan : Scan σ) : σ × Nat × List LogRecord := (scan.state, scan.count, scan.dropped)

theorem patchSlot_booking (f : Patcher σ) (d : MethodDef) (scan : Scan (σ × List Offer)) (i : Nat) :
    let site : Site := ⟨{ d with body := some scan.body }, i⟩
    let o : Offer := ⟨site, (f site scan.state.1).1⟩
    (patchSlot f.booking d scan i).body = overlay o.patches scan.body ∧
      Booked f [o] scan.rest (patchSlot f.booking d scan i).rest := by
  intro site o
  have hanswers : Answers f scan.state.1 [o] (f site scan.state.1).2 := .cons rfl (.nil _)
  have hask : f.booking site scan.state =
      (o.answer, (f site scan.state.1).2, scan.state.2 ++ [o]) := rfl
  cases hanswer : o.answer with
  | none =>
    have hpatches : o.patches = [] := by rw [Offer.patches, hanswer]; rfl
    have hslot : patchSlot f.booking d scan i =
        { scan with state := ((f site scan.state.1).2, scan.state.2 ++ [o]) } := by
      unfold patchSlot
      rw [hask, hanswer]
    rw [hslot, hpatches, overlay_nil]
    exact ⟨rfl, rfl, hanswers, by simp [Scan.rest, Offer.made, hpatches],
      by simp [Scan.rest, Offer.dropped, hpatches]⟩
  | some ps =>
    have hpatches : o.patches = ps := by rw [Offer.patches, hanswer]; rfl
    have hslot : patchSlot f.booking d scan i =
        { body := applyPatches ps scan.body
          state := ((f site scan.state.1).2, scan.state.2 ++ [o])
          count := if o.made then scan.count + 1 else scan.count
          dropped := scan.dropped ++ o.dropped } := by
      unfold patchSlot Offer.made Offer.dropped
      rw [hask, hanswer, hpatches]
      rfl
    rw [hslot, hpatches, applyPatches_eq_overlay]
    refine ⟨rfl, rfl, hanswers, ?_, ?_⟩
    · show (if o.made then scan.count + 1 else scan.count) = scan.count + [o].countP Offer.made
      rw [List.countP_singleton]
      split
      · rfl
      · rfl
    · show scan.dropped ++ o.dropped = scan.dropped ++ [o].flatMap Offer.dropped
      rw [List.flatMap_singleton]

/-- The first slots of a body have been offered. -/
structure Offering (f : Patcher σ) (d : MethodDef) (body : Array Instruction)
    (start : (σ × List Offer) × Nat × List LogRecord) (offers : List Offer)
    (scan : Scan (σ × List Offer)) : Prop where
  booked : Booked f offers start scan.rest
  site : ∀ (i : Nat) (h : i < offers.length), offers[i].site =
    ⟨{ d with body := some (overlay ((offers.take i).flatMap Offer.patches) body) }, i⟩
  body : scan.body = overlay (offers.flatMap Offer.patches) body

/-- One more slot is offered. -/
theorem Offering.step {f : Patcher σ} {d : MethodDef} {body : Array Instruction}
    {start : (σ × List Offer) × Nat × List LogRecord} {offers : List Offer}
    {scan : Scan (σ × List Offer)} (h : Offering f d body start offers scan) :
    ∃ o, Offering f d body start (offers ++ [o])
      (patchSlot f.booking d scan offers.length) := by
  obtain ⟨hbody, hbooked⟩ := patchSlot_booking f d scan offers.length
  refine ⟨_, h.booked.trans hbooked, fun i hi => ?_, ?_⟩
  · rcases Nat.lt_or_ge i offers.length with hold | hnew
    · rw [List.getElem_append_left hold, List.take_append_of_le_length (Nat.le_of_lt hold)]
      exact h.site i hold
    · have hlast : i = offers.length := by
        rw [List.length_append, List.length_singleton] at hi
        omega
      subst hlast
      rw [List.getElem_concat_length rfl, List.take_left, ← h.body]
  · rw [hbody, h.body, List.flatMap_append, overlay_append, List.flatMap_singleton]

theorem offering_foldl (f : Patcher σ) (d : MethodDef) (body : Array Instruction)
    (start : (σ × List Offer) × Nat × List LogRecord) (n : Nat) :
    ∃ offers, offers.length = n ∧ Offering f d body start offers
      ((List.range n).foldl (patchSlot f.booking d) ⟨body, start.1, start.2.1, start.2.2⟩) := by
  induction n with
  | zero => exact ⟨[], rfl, .refl f start, nofun, (overlay_nil body).symm⟩
  | succ n ih =>
    obtain ⟨offers, rfl, hoffering⟩ := ih
    obtain ⟨o, hnext⟩ := hoffering.step
    refine ⟨offers ++ [o], by simp, ?_⟩
    rw [List.range_succ, List.foldl_append]
    exact hnext

theorem round_scanMethod (f : Patcher σ) (d : MethodDef)
    (acc : (σ × List Offer) × Nat × List LogRecord) :
    ∃ offers, Round d offers (scanMethod (patchSlot f.booking) d acc).1 ∧
      Booked f offers acc (scanMethod (patchSlot f.booking) d acc).2 := by
  unfold scanMethod
  cases hbody : d.body with
  | none => exact ⟨[], .bodiless hbody, .refl f acc⟩
  | some body =>
    obtain ⟨offers, hlength, hoffering⟩ := offering_foldl f d body acc body.size
    refine ⟨offers, ?_, hoffering.booked⟩
    simp only [hoffering.body]
    exact .body hbody ⟨hlength, hoffering.site⟩

theorem rounds_mapState (f : Patcher σ) (ds : List MethodDef)
    (acc : (σ × List Offer) × Nat × List LogRecord) :
    ∃ offers, Rounds ds offers (mapState (scanMethod (patchSlot f.booking)) ds acc).1 ∧
      Booked f offers acc (mapState (scanMethod (patchSlot f.booking)) ds acc).2 := by
  induction ds generalizing acc with
  | nil => exact ⟨[], .nil, .refl f acc⟩
  | cons d rest ih =>
    obtain ⟨own, hround, hbooked⟩ := round_scanMethod f d acc
    obtain ⟨later, hrounds, hrest⟩ := ih (scanMethod (patchSlot f.booking) d acc).2
    exact ⟨own ++ later, .cons hround hrounds, hbooked.trans hrest⟩

/-! ## What the offers are -/

/-- The method without its body, and the slot. -/
def Offer.place (o : Offer) : MethodDef × Nat := ({ o.site.method with body := none }, o.site.index)

/-- The places of all slots of a method, from the first to the last. -/
def MethodDef.places (d : MethodDef) : List (MethodDef × Nat) :=
  (List.range d.code.size).map fun i => ({ d with body := none }, i)

theorem Round.places {d d' : MethodDef} {offers : List Offer} (h : Round d offers d') :
    offers.map Offer.place = d.places := by
  unfold MethodDef.places MethodDef.code
  cases h with
  | bodiless hbody =>
    rw [hbody]
    rfl
  | body hbody offered =>
    rw [hbody]
    apply List.ext_getElem
    · simp [offered.length]
    · intro i hi _
      rw [List.length_map] at hi
      simp [Offer.place, offered.site i hi]

theorem Rounds.places {ds ds' : List MethodDef} {offers : List Offer} (h : Rounds ds offers ds') :
    offers.map Offer.place = ds.flatMap MethodDef.places := by
  induction h with
  | nil => rfl
  | cons round _ ih => rw [List.map_append, List.flatMap_cons, round.places, ih]

/-! ## The result of a patch -/

/-- The bodies have the same slots. -/
def SameSlots (body body' : Array Instruction) : Prop := body'.size = body.size

theorem size_patchSlot (f : Patcher σ) (d : MethodDef) (scan : Scan σ) (i : Nat) :
    (patchSlot f d scan i).body.size = scan.body.size := by
  rw [patchSlot_body, applyPatches_eq_overlay, size_overlay]

theorem patch_sizes (f : Patcher σ) (m : Module) (s : σ) :
    List.Forall₂ (TypeDef.Framed SameSlots) m.types (m.patch f s).module.types :=
  scanModule_forall₂ (R := SameSlots) (fun _ => rfl) (fun _ _ _ h h' => h'.trans h)
    (size_patchSlot f) m s

theorem instructionCount_eq {m m' : Module}
    (h : List.Forall₂ (TypeDef.Framed SameSlots) m.types m'.types) :
    m'.instructionCount = m.instructionCount := by
  have hmethods : List.Forall₂ _ m.methods m'.methods := forall₂_methods h
  unfold Module.instructionCount
  generalize m.methods = ds at hmethods
  generalize m'.methods = ds' at hmethods
  induction hmethods with
  | nil => rfl
  | cons hframed _ ih =>
    have hsize : SameSlots _ _ := hframed.code rfl
    rw [List.foldr_cons, List.foldr_cons, ih, hsize]

/-- Whatever a patcher answers, a patch offers it every slot in order, with the edits so far; the
last edit of a slot stays, nothing else of the module changes, and the sites count for which an edit
was made. -/
theorem patch_offers (f : Patcher σ) (m : Module) (s : σ) :
    let done := m.patch f s
    let offers := m.offers f s
    offers.map Offer.place = m.methods.flatMap MethodDef.places ∧
      Answers f s offers done.state ∧
      Rounds m.methods offers done.module.methods ∧
      (done.module.name = m.name ∧ done.module.memberRefs = m.memberRefs ∧
        List.Forall₂ (TypeDef.Framed SameSlots) m.types done.module.types) ∧
      done.module.instructionCount = m.instructionCount ∧
      done.count = offers.countP Offer.made ∧
      done.dropped = offers.flatMap Offer.dropped := by
  intro done offers
  -- the books are kept beside the edit and change nothing about it
  have halign := patch_observed f (fun site s => some (Offer.mk site (f site s).1)) m s []
  obtain ⟨booked, hrounds, hbooked⟩ := rounds_mapState f m.methods ((s, []), 0, [])
  obtain ⟨hmethods, hacc⟩ :=
    editMethods_methods (scanMethod (patchSlot f.booking)) m ((s, []), 0, [])
  rw [← hmethods] at hrounds
  rw [← hacc] at hbooked
  obtain rfl : offers = booked := hbooked.listed
  have hleft : Rounds m.methods offers done.module.methods := halign.module ▸ hrounds
  have hcount : done.count = 0 + offers.countP Offer.made := halign.count ▸ hbooked.count
  refine ⟨hleft.places, ?_, hleft, ⟨rfl, rfl, patch_sizes f m s⟩,
    instructionCount_eq (patch_sizes f m s), ?_, ?_⟩
  · exact halign.state ▸ hbooked.answers
  · rw [hcount, Nat.zero_add]
  · exact halign.dropped ▸ hbooked.dropped

end Unmask
