import Unmask.Proofs.Decrypt.Steady

/-!
# Running the decrypt pass again

With a deterministic host a fresh run over what a fresh run left finds the same helpers and takes
the same turns again. So it changes nothing exactly if the turns are settled: no call was left by
its own turn whose constant a later turn has brought up. The code makes a single sweep over the
methods of the helpers, in the order of the module, so a chain of calls is decrypted in one run only
if its inner call has the earlier turn.
-/

namespace Unmask

/-! ## The helpers of what is left -/

namespace DecryptHelper

open Decrypt

variable {m : Module} {ts : List Turn}

/-- The name of the referenced member that an instruction calls. -/
def calledMember? (m : Module) (i : Instruction) : Option String :=
  if i.isCall then (i.method?.bind m.memberRef?).map MemberRef.name else none

theorem calledMembers_eq (m : Module) (code : Array Instruction) :
    calledMembers m code = (code.map (calledMember? m)).toList.filterMap id := by
  rw [Array.toList_map, List.filterMap_map]
  rfl

theorem calledMember?_of_not_isCall {i : Instruction} (h : i.isCall = false) :
    calledMember? m i = none := by
  simp [calledMember?, h]

theorem calledMember?_call {t : Token} (h : t.isMethodDef) :
    calledMember? m (.call t) = none := by
  have href : ¬ t.isMemberRef := fun href => Token.not_isMethodDef href h
  simp [calledMember?, Instruction.call, Instruction.method?, Module.memberRef?, href]

/-- A decrypt call calls no referenced member, and neither does what takes its place. -/
theorem calledMembers_runTurns (hts : ∀ t ∈ ts, t.method.token.isMethodDef)
    (body : Array Instruction) :
    calledMembers m (runTurns ts body) = calledMembers m body := by
  refine runTurns_keeps (P := fun b => calledMembers m b = calledMembers m body)
    (fun t ht b i hb => ?_) rfl
  rw [← hb, calledMembers_eq, calledMembers_eq]
  obtain ⟨es, houtcome⟩ := t.offer_outcome default b i
  generalize t.offer b i = next at houtcome
  cases houtcome with
  | passed | failed => rfl
  | @decrypted n arg load v hslot harg hconst hload message =>
    congr 2
    apply Array.ext_getElem?
    intro k
    rw [Array.getElem?_map, Array.getElem?_map,
      getElem?_decrypt (Array.getElem?_eq_some_iff.1 hslot).1]
    have hliteral : load.isCall = false := by simpa using LiteralKind.literal_not_isCall hload
    by_cases hk : k = n + 1
    · simp [hk, hslot, calledMember?_call (hts t ht), calledMember?_of_not_isCall hliteral]
    by_cases hkarg : k = n
    · have harg' := calledMember?_of_not_isCall (m := m) (Instruction.not_isCall_of_constant hconst)
      simp [hkarg, harg, harg', calledMember?_of_not_isCall (m := m) (i := .nop) rfl]
    · simp [hk, hkarg]

theorem decryptMethods_mapBodies (f : Array Instruction → Array Instruction) (ty : TypeDef) :
    decryptMethods (ty.mapBodies f) = decryptMethods ty := by
  have hkind : ∀ kind, methodOfKind? (ty.mapBodies f) kind = methodOfKind? ty kind := by
    intro kind
    show ((ty.methods.map (MethodDef.mapBody f)).find? _).map _ = _
    rw [List.find?_map, Option.map_map]
    rfl
  unfold decryptMethods
  simp only [hkind]

theorem detect_runTurns (hts : ∀ t ∈ ts, t.method.token.isMethodDef) (m : Module) (ty : TypeDef) :
    detect (m.mapBodies (runTurns ts)) (ty.mapBodies (runTurns ts)) = detect m ty := by
  unfold detect
  rw [TypeDef.staticConstructor?_mapBodies]
  cases ty.staticConstructor? with
  | none => rfl
  | some cctor =>
    have hcalled : calledMembers (m.mapBodies (runTurns ts)) (runTurns ts cctor.code) =
        calledMembers m cctor.code := calledMembers_runTurns hts cctor.code
    simp only [Option.map_some, MethodDef.mapBody_code (runTurns_empty ts), hcalled,
      decryptMethods_mapBodies, Module.reflectionName, Module.qualifiedName_mapBodies]
    rfl

end DecryptHelper

namespace Decrypt

variable {σ : Type} {host : Host σ} {data : ByteArray} {numeric : NumericOracle} {m : Module}
  {ts : List Turn}

/-- Turns leave the helpers as they are. -/
theorem helpers_runTurns (hts : ∀ t ∈ ts, t.method.token.isMethodDef) (m : Module) :
    helpers (m.mapBodies (runTurns ts)) = helpers m := by
  have hfound : (m.mapBodies (runTurns ts)).types.map
      (DecryptHelper.detect (m.mapBodies (runTurns ts))) =
        m.types.map (DecryptHelper.detect m) := by
    show (m.types.map (TypeDef.mapBodies (runTurns ts))).map _ = _
    rw [List.map_map]
    exact List.map_congr_left fun ty _ => DecryptHelper.detect_runTurns hts m ty
  unfold helpers
  rw [hfound]

/-! ## Two runs -/

/-- The turns over what a run leaves are the turns of the run. -/
theorem turns_run (htable : ∀ d ∈ m.methods, d.token.isMethodDef) (s : σ) :
    turns host data numeric (m.mapBodies (runTurns (turns host data numeric m s))) s =
      turns host data numeric m s := by
  have hts : ∀ t ∈ turns host data numeric m s, t.method.token.isMethodDef := by
    intro t ht
    obtain ⟨d, hd, htoken⟩ := mem_methodsFound (mem_turns ht)
    exact htoken ▸ htable d hd
  rw [turns, helpers_runTurns hts, ← turns]

/-- A fresh run over what a fresh run left takes the same turns once more. -/
theorem rerun_module (hdet : host.Deterministic) (data : ByteArray) (numeric : NumericOracle)
    (hmethods : (m.methods.map MethodDef.token).Nodup)
    (htable : ∀ d ∈ m.methods, d.token.isMethodDef) (s r : σ) :
    let first := run host data numeric m { host := s }
    (run host data numeric first.module { host := r }).module =
      first.module.mapBodies (runTurns (turns host data numeric m s)) := by
  intro first
  have hfirst : first.module = m.mapBodies (runTurns (turns host data numeric m s)) :=
    run_module (hdet.steady data) numeric hmethods s
  have hdistinct : (first.module.methods.map MethodDef.token).Nodup := by
    rw [hfirst, (m.sameButBodies_mapBodies _).methodTokens_eq]
    exact hmethods
  rw [run_module (hdet.steady data) numeric hdistinct r, turns_eq hdet data numeric _ r s, hfirst,
    turns_run htable]

/-- With a deterministic host, a fresh run over what a fresh run left changes nothing and says so
exactly if the first left no call of a method whose turn came before that of the method called in
the slot before, where the literal there is a constant for which the call has a literal. -/
theorem rerun_unchanged_iff (hdet : host.Deterministic) (data : ByteArray)
    (numeric : NumericOracle) (hmethods : (m.methods.map MethodDef.token).Nodup)
    (htable : ∀ d ∈ m.methods, d.token.isMethodDef) (s r : σ) :
    let first := run host data numeric m { host := s }
    let again := run host data numeric first.module { host := r }
    (again.module = first.module ∧ again.changed = .ok false) ↔
      (turns host data numeric m s).Pairwise fun t u =>
        ∀ d ∈ m.methods, ∀ d' ∈ first.module.methods, d'.token = d.token →
          ∀ n, d.code[n + 1]? = some (.call t.method.token) →
            d.code[n]? = some (.call u.method.token) →
              (d'.code[n]?.bind Instruction.constant?).bind t.literal? = none := by
  intro first again
  let ts := turns host data numeric m s
  have hfirst : first.module = m.mapBodies (runTurns ts) :=
    run_module (hdet.steady data) numeric hmethods s
  have hagain : again.module = first.module.mapBodies (runTurns ts) :=
    rerun_module hdet data numeric hmethods htable s r
  have hflag : again.changed = .ok false ↔ again.module = first.module := by
    have hchanged : again.changed = .ok (decide (again.module ≠ first.module)) := run_changed ..
    simp [hchanged]
  have hbodies : again.module = first.module ↔
      ∀ d ∈ m.methods, runTurns ts (runTurns ts d.code) = runTurns ts d.code := by
    rw [hagain, Module.mapBodies_eq_self_iff (runTurns_empty ts), hfirst, Module.methods_mapBodies]
    simp only [List.forall_mem_map, MethodDef.mapBody_code (runTurns_empty ts)]
  have hleft : ∀ d ∈ m.methods, ∀ d' ∈ first.module.methods, d'.token = d.token →
      d'.code = runTurns ts d.code := fun d hd d' hd' htoken =>
    Module.code_of_mem_mapBodies (runTurns_empty ts) hmethods hd (hfirst ▸ hd') htoken
  rw [hflag, and_self_iff, hbodies]
  simp only [runTurns_idem_iff]
  constructor
  · intro hsettled
    refine List.pairwise_iff_forall_sublist.2 fun htu d hd d' hd' htoken n hcall hother => ?_
    rw [hleft d hd d' hd' htoken]
    exact List.pairwise_iff_forall_sublist.1 (hsettled d hd) htu n hcall hother
  · intro hpairs d hd
    have hd' : d.mapBody (runTurns ts) ∈ first.module.methods := by
      rw [hfirst, Module.methods_mapBodies]
      exact List.mem_map_of_mem hd
    refine hpairs.imp fun hpair n hcall hother => ?_
    rw [← hleft d hd _ hd' rfl]
    exact hpair d hd _ hd' rfl n hcall hother

/-- Calls of one method in a row are decrypted in one run, since each is offered after the one
before it; another run changes nothing. -/
theorem rerun_unchanged_numberModule :
    let m := numberModule #[⟨.ldcI4, .immediate (.int32 7)⟩, .call ⟨0x06000002⟩,
      .call ⟨0x06000002⟩]
    let first := run numberHost.host .empty .typeMatched m { host := [] }
    let again := run numberHost.host .empty .typeMatched first.module { host := [] }
    numberHost.host.Deterministic ∧ (m.methods.map MethodDef.token).Nodup ∧
      (∀ d ∈ m.methods, d.token.isMethodDef) ∧
      first.module = numberModule #[.nop, .nop, ⟨.ldcI4, .immediate (.int32 9)⟩] ∧
      again.module = first.module ∧ again.changed = .ok false := by
  intro m first again
  have hmethods : (m.methods.map MethodDef.token).Nodup := by decide
  have htable : ∀ d ∈ m.methods, d.token.isMethodDef := by decide
  have hone : (turns numberHost.host .empty .typeMatched m []).length = 1 := by decide +kernel
  obtain ⟨t, hturns⟩ := List.length_eq_one_iff.1 hone
  refine ⟨numberHost.host_deterministic, hmethods, htable, by decide +kernel, ?_⟩
  refine (rerun_unchanged_iff numberHost.host_deterministic .empty .typeMatched hmethods htable
    [] []).2 ?_
  rw [hturns]
  exact List.pairwise_singleton _ t

/-- A program with the given main method and two helpers, of which the first in the order of the
module decrypts strings and the second `int32` constants. -/
def textModule (main : Array Instruction) : Module :=
  let numbers := numberModule main
  { numbers with
    types :=
      { token := ⟨0x02000003⟩
        name := "Texts"
        methods :=
          [⟨⟨0x06000011⟩, ".cctor", 0x10, ⟨false, .void, []⟩, some
              #[.call ⟨0x0A000001⟩, .call ⟨0x0A000002⟩, .call ⟨0x0A000003⟩]⟩,
           ⟨⟨0x06000012⟩, "Text", 0x10, ⟨false, .string, [.i4]⟩, none⟩] } :: numbers.types }

/-- A host for that module, which knows the number for 7 and the text for that number. -/
def textHost : HostScript :=
  .types [("Texts", [("Text", { answers := [("8", .value (.string (.ofString "eight")))] })]),
    ("Numbers", [("Get", { answers := [("7", .value (.int32 8))] })])]

/-- The strings have their turn before the numbers, so the first run leaves the call for the text
with its number, and another run decrypts it. -/
theorem rerun_changes_textModule :
    let m := textModule #[⟨.ldcI4, .immediate (.int32 7)⟩, .call ⟨0x06000002⟩,
      .call ⟨0x06000012⟩]
    let first := run textHost.host .empty .typeMatched m { host := [] }
    let again := run textHost.host .empty .typeMatched first.module { host := first.state.host }
    textHost.host.Deterministic ∧ (m.methods.map MethodDef.token).Nodup ∧
      (∀ d ∈ m.methods, d.token.isMethodDef) ∧
      first.module = textModule #[.nop, ⟨.ldcI4, .immediate (.int32 8)⟩, .call ⟨0x06000012⟩] ∧
      again.module = textModule #[.nop, .nop, ⟨.ldstr, .string (.ofString "eight")⟩] ∧
      again.module ≠ first.module ∧ again.changed = .ok true :=
  ⟨textHost.host_deterministic, by decide, by decide, by decide +kernel⟩

end Decrypt

end Unmask
