import Unmask.Proofs.Decrypt.Helper
import Unmask.Proofs.Engine.Slots
import Unmask.Proofs.Module.Frame

/-!
# The frame of the decrypt pass

Whatever the host answers, the pass only makes decrypt edits for the methods of the helpers it
found, in the bodies of a module it leaves alone otherwise.
-/

namespace Unmask.Decrypt

variable {σ : Type} {proxies : List ProxyType} {methods : List DecryptMethod}

/-! ## One slot -/

/-- What a decrypt method makes of a site: the edits it asks for and the events it leaves. -/
inductive SiteOutcome (method : DecryptMethod) (site : Site) : Option (List Patch) → EventLog → Prop
  | passed (hsite : site.instruction ≠ .call method.token) : SiteOutcome method site none []
  | failed (hsite : site.instruction = .call method.token) (message : String) :
      SiteOutcome method site none [siteEvent .siteFailed site message]
  | decrypted {arg : Int32} {v : Value} {load : Instruction}
      (hsite : site.instruction = .call method.token)
      (harg : site.previous?.bind Instruction.constant? = some arg)
      (hload : method.kind.literal v = .ok load) (message : String) :
      SiteOutcome method site (some [⟨site.index - 1, .nop⟩, ⟨site.index, load⟩])
        [siteEvent method.kind.eventKind site message]

theorem patchSite_outcome (host : Host σ) (method : DecryptMethod) (live : Live) (site : Site)
    (walk : Walk σ) :
    ∃ es, (patchSite host method live site walk).2.journal.events = walk.journal.events ++ es ∧
      SiteOutcome method site (patchSite host method live site walk).1 es := by
  unfold patchSite
  split
  case isTrue hsite =>
    refine ⟨[], (List.append_nil _).symm, .passed fun hcall => ?_⟩
    simp [isSite_iff.2 hcall] at hsite
  case isFalse hsite =>
    have hcall : site.instruction = .call method.token := isSite_iff.1 (by simpa using hsite)
    split
    case h_1 => exact ⟨_, rfl, .failed hcall _⟩
    case h_2 arg harg =>
      simp only
      split
      case h_1 reason _ =>
        exact ⟨_, congrArg (· ++ _) (List.append_nil _), .failed hcall _⟩
      case h_2 load hload =>
        obtain ⟨v, -, hliteral⟩ := bind_eq_ok hload
        have hkind : method.kind.literal v = .ok load := by
          cases hkind : method.kind.literal v with
          | error e => simp [hkind, Except.mapError] at hliteral
          | ok load' => simpa [hkind, Except.mapError] using hliteral
        exact ⟨_, congrArg (· ++ _) (List.append_nil _), .decrypted hcall harg hkind _⟩

/-- What a decrypt method makes of slot `i` of a body of `d`: the body and the events it leaves. -/
inductive SlotOutcome (method : DecryptMethod) (d : MethodDef) (body : Array Instruction) :
    Nat → Array Instruction → EventLog → Prop
  | passed {i : Nat} (hslot : body[i]? ≠ some (.call method.token)) :
      SlotOutcome method d body i body []
  | failed {i : Nat} (hslot : body[i]? = some (.call method.token)) (message : String) :
      SlotOutcome method d body i body [siteEvent .siteFailed ⟨d, i⟩ message]
  | decrypted {n : Nat} {arg load : Instruction} {v : Value}
      (hslot : body[n + 1]? = some (.call method.token)) (harg : body[n]? = some arg)
      (hconst : arg.constant?.isSome) (hload : method.kind.literal v = .ok load)
      (message : String) :
      SlotOutcome method d body (n + 1) ((body.setIfInBounds n .nop).setIfInBounds (n + 1) load)
        [siteEvent method.kind.eventKind ⟨d, n + 1⟩ message]

theorem nop_ne_call (t : Token) : Instruction.nop ≠ .call t := fun h =>
  absurd (congrArg Instruction.opcode h) (by decide : OpCode.nop ≠ OpCode.call)

theorem call_injective : Function.Injective Instruction.call := fun _ _ h =>
  Operand.method.inj (congrArg Instruction.operand h)

theorem instruction_eq_call_iff {d : MethodDef} {body : Array Instruction} {i : Nat} {t : Token} :
    (Site.mk { d with body := some body } i).instruction = .call t ↔
      body[i]? = some (.call t) := by
  show (body[i]?).getD .nop = .call t ↔ _
  cases body[i]? with
  | none => simp [nop_ne_call]
  | some old => simp

theorem eventKind_isTransformation (kind : LiteralKind) : kind.eventKind.isTransformation := by
  cases kind <;> rfl

/-- The events of a slot tell what became of it, and those of them that tell of a change are
counted. -/
theorem patchSlot_outcome (host : Host σ) (method : DecryptMethod) (live : Live) (d : MethodDef)
    (scan : Scan (Walk σ)) (i : Nat) :
    let next := patchSlot (patchSite host method live) d scan i
    ∃ es, next.state.journal.events = scan.state.journal.events ++ es ∧
      SlotOutcome method d scan.body i next.body es ∧
      next.count = scan.count + es.countP fun e => e.kind.isTransformation := by
  obtain ⟨es, hevents, houtcome⟩ := patchSite_outcome host method live
    ⟨{ d with body := some scan.body }, i⟩ scan.state
  refine ⟨es, ?_⟩
  unfold patchSlot
  generalize patchSite host method live ⟨{ d with body := some scan.body }, i⟩ scan.state = asked
    at hevents houtcome
  obtain ⟨edits, walk⟩ := asked
  cases houtcome with
  | passed hsite => exact ⟨hevents, .passed fun h => hsite (instruction_eq_call_iff.2 h), rfl⟩
  | failed hsite message =>
    exact ⟨hevents, .failed (instruction_eq_call_iff.1 hsite) message, rfl⟩
  | decrypted hsite harg hload message =>
    have hslot := instruction_eq_call_iff.1 hsite
    cases i with
    | zero => cases harg
    | succ n =>
      obtain ⟨constant, hconstant, hvalue⟩ := Option.bind_eq_some_iff.1 harg
      refine ⟨hevents, .decrypted hslot hconstant (by simp [hvalue]) hload message, ?_⟩
      have hbound : n + 1 < scan.body.size := (Array.getElem?_eq_some_iff.1 hslot).1
      simp [hbound, siteEvent, eventKind_isTransformation]

/-! ## Every body -/

/-- What a patch leaves of a body is the body or one decrypt edit of it. -/
theorem patchSlot_edits {method : DecryptMethod} (hmethod : method ∈ methods) (host : Host σ)
    (live : Live) (d : MethodDef) (scan : Scan (Walk σ)) (i : Nat) :
    BodyEdits proxies methods scan.body
      (patchSlot (patchSite host method live) d scan i).body := by
  obtain ⟨es, -, houtcome, -⟩ := patchSlot_outcome host method live d scan i
  generalize (patchSlot (patchSite host method live) d scan i).body = next at houtcome
  cases houtcome with
  | passed | failed => exact .refl
  | decrypted hslot harg hconst hload => exact .single (.decrypt hmethod hslot harg hconst hload)

theorem decryptMethod_framed {method : DecryptMethod} (hmethod : method ∈ methods) (host : Host σ)
    (numeric : NumericOracle) (image : ImageId) (helper : DecryptHelper) (p : Progress σ) :
    p.module.Framed (BodyEdits proxies methods)
      (decryptMethod host numeric image helper p method).module := by
  unfold decryptMethod
  split
  · exact .refl (fun _ => .refl) p.module
  simp only
  split
  · exact .refl (fun _ => .refl) p.module
  · exact .patch (fun _ => .refl) (fun _ _ _ => .trans) (patchSlot_edits hmethod host _) p.module _

theorem foldl_decryptMethod_framed (host : Host σ) (numeric : NumericOracle) (image : ImageId)
    (helper : DecryptHelper) {l : List DecryptMethod} (hl : ∀ method ∈ l, method ∈ methods)
    (p : Progress σ) :
    p.module.Framed (BodyEdits proxies methods)
      (l.foldl (decryptMethod host numeric image helper) p).module := by
  induction l generalizing p with
  | nil => exact .refl (fun _ => .refl) p.module
  | cons method rest ih =>
    refine .trans (fun _ _ _ => .trans) ?_
      (ih (fun c hc => hl c (List.mem_cons_of_mem method hc)) _)
    exact decryptMethod_framed (hl method List.mem_cons_self) host numeric image helper p

theorem decryptHelpers_framed (host : Host σ) (numeric : NumericOracle) (image : ImageId)
    {found : List DecryptHelper} (hfound : ∀ helper ∈ found, ∀ d ∈ helper.methods, d ∈ methods)
    (p : Progress σ) :
    p.module.Framed (BodyEdits proxies methods)
      (decryptHelpers host numeric image found p).module := by
  induction found generalizing p with
  | nil => exact .refl (fun _ => .refl) p.module
  | cons helper rest ih =>
    unfold decryptHelpers
    simp only
    split
    · refine .trans (fun _ _ _ => .trans) ?_
        (ih (fun c hc => hfound c (List.mem_cons_of_mem helper hc)) _)
      exact foldl_decryptMethod_framed host numeric image helper (hfound helper List.mem_cons_self)
        (Progress.note { p with walk.oracle.host := _ } _)
    · exact .refl (fun _ => .refl) p.module

/-- The pass makes nothing but decrypt edits for the methods it found. -/
theorem run_framed (proxies : List ProxyType) (host : Host σ) (data : ByteArray)
    (numeric : NumericOracle) (m : Module) (o : Oracle σ) :
    m.Framed (BodyEdits proxies (methodsFound m)) (run host data numeric m o).module := by
  unfold run
  simp only
  split
  · exact .refl (fun _ => .refl) m
  split
  · exact .refl (fun _ => .refl) m
  · refine decryptHelpers_framed host numeric _ (fun helper hhelper d hd => ?_) ⟨m, _, 0⟩
    exact List.mem_flatMap.2 ⟨helper, hhelper, hd⟩

end Unmask.Decrypt
