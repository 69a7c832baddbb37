import Unmask.Proofs.Module.Depth
import Unmask.Proofs.Proxy.Journal
import Unmask.Proofs.Proxy.Redirect

/-!
# Every candidate has its turn

Taking out a proxy takes out what is nested in it. The candidates come deepest first, and whatever
is nested in a type is deeper than it, so a candidate is still there when its turn comes. Once a
proxy has been replaced no call of its entry is left, and none comes back: direct calls name
references.
-/

namespace Unmask.Proxy

variable {resolver : Resolver} {removeTypes : Bool} {m : Module}

/-! ## The order of the candidates -/

theorem insertByDepth_sorted {c : Nat × Token} {l : List (Nat × Token)}
    (h : l.Pairwise fun a b => b.1 ≤ a.1) :
    (insertByDepth c l).Pairwise fun a b => b.1 ≤ a.1 := by
  induction l with
  | nil => exact List.pairwise_singleton _ _
  | cons d rest ih =>
    obtain ⟨hd, hrest⟩ := List.pairwise_cons.1 h
    unfold insertByDepth
    split
    · rename_i hle
      refine List.pairwise_cons.2 ⟨fun e he => ?_, h⟩
      rcases List.mem_cons.1 he with rfl | he
      · exact hle
      · exact Nat.le_trans (hd e he) hle
    · rename_i hlt
      refine List.pairwise_cons.2 ⟨fun e he => ?_, ih hrest⟩
      rcases List.mem_cons.1 ((insertByDepth_perm c rest).mem_iff.1 he) with rfl | he
      · omega
      · exact hd e he

theorem foldr_insertByDepth_sorted (l : List (Nat × Token)) :
    (l.foldr insertByDepth []).Pairwise fun a b => b.1 ≤ a.1 := by
  induction l with
  | nil => exact .nil
  | cons c rest ih => exact insertByDepth_sorted ih

/-- The deepest candidates come first. -/
theorem candidates_sorted (htypes : (m.types.map TypeDef.token).Nodup) :
    (candidates m).Pairwise fun t u => m.depthOf u ≤ m.depthOf t := by
  let depths := (m.types.filter TypeDef.isDelegate).map fun ty => (m.nestingDepth ty, ty.token)
  have hdepth : ∀ c ∈ depths.foldr insertByDepth [], c.1 = m.depthOf c.2 := by
    intro c hc
    have hmem : c ∈ depths := (foldr_insertByDepth_perm depths).mem_iff.1 hc
    obtain ⟨ty, hty, rfl⟩ := List.mem_map.1 hmem
    exact (Module.depthOf_token htypes (List.mem_filter.1 hty).1).symm
  refine List.pairwise_map.2 ((foldr_insertByDepth_sorted depths).imp_of_mem ?_)
  intro a b ha hb hle
  rwa [← hdepth a ha, ← hdepth b hb]

theorem mem_candidates {t : Token} :
    t ∈ candidates m ↔ ∃ ty ∈ m.types, ty.isDelegate ∧ ty.token = t := by
  simp [(candidates_perm m).mem_iff, and_assoc]

/-! ## Presence -/

theorem Visit.mem_removed {v : Visit} {t : Token} (h : t ∈ v.removed resolver removeTypes) :
    t ∈ v.module.typeAndNested v.proxy.typeToken := by
  unfold Visit.removed at h
  split at h
  · exact h
  · cases h

/-- What a run over some candidates takes out is one of them or deeper than one of them. -/
theorem deeper_of_mem_removedAll (htypes : (m.types.map TypeDef.token).Nodup)
    (hacyclic : m.Acyclic) {ts : List Token} {t : Token}
    (h : t ∈ removedAll resolver removeTypes (visits resolver removeTypes ts m)) :
    t ∈ ts ∨ ∃ u ∈ ts, m.depthOf u < m.depthOf t := by
  obtain ⟨v, hv, hremoved⟩ := List.mem_flatMap.1 h
  obtain ⟨hreduces, -, ty', hty', hdetect⟩ := mem_visits hv
  have hturn : v.proxy.typeToken ∈ ts :=
    (visits_sublist resolver removeTypes ts m).subset (List.mem_map_of_mem hv)
  have hdeclared : v.proxy.typeToken ∈ m.types.map TypeDef.token := by
    obtain ⟨f, ty, hty, rfl⟩ := hreduces.exists_type hty'
    rw [ProxyType.typeToken_of_detect hdetect]
    exact List.mem_map.2 ⟨ty, hty, rfl⟩
  -- nested in the module of the visit, so nested in the module at the start
  have hreach : Relation.ReflTransGen m.NestedIn t v.proxy.typeToken :=
    Relation.ReflTransGen.mono (fun _ _ => hreduces.nestedIn) _ _
      (Module.reaches_of_mem_typeAndNested (Visit.mem_removed hremoved))
  rcases Relation.reflTransGen_iff_eq_or_transGen.1 hreach with heq | hnested
  · exact .inl (heq ▸ hturn)
  · exact .inr ⟨_, hturn, Module.depthOf_lt htypes hacyclic hnested hdeclared⟩

/-- A candidate is there when its turn comes. -/
theorem mem_tokens_at_turn (htypes : (m.types.map TypeDef.token).Nodup) (hacyclic : m.Acyclic)
    {before after : List Token} {t : Token} (h : candidates m = before ++ t :: after) :
    t ∈ (processAll resolver removeTypes before m).module.types.map TypeDef.token := by
  rw [(processAll_spec resolver removeTypes before m).1, Module.mem_tokens_reduce]
  constructor
  · obtain ⟨ty, hty, -, rfl⟩ := mem_candidates.1 (h ▸ List.mem_append_right before
      List.mem_cons_self)
    exact List.mem_map_of_mem hty
  · intro hremoved
    have hnodup : (before ++ t :: after).Nodup := h ▸ candidates_nodup htypes
    have hsorted := h ▸ candidates_sorted htypes
    rcases deeper_of_mem_removedAll htypes hacyclic hremoved with hbefore | ⟨u, hu, hdeeper⟩
    · exact (List.nodup_append.1 hnodup).2.2 t hbefore t List.mem_cons_self rfl
    · have hshallower := (List.pairwise_append.1 hsorted).2.2 u hu t List.mem_cons_self
      omega

/-! ## Calls of the entries -/

/-- No call of the entry of a replaced proxy is left. -/
theorem not_calls_replaced (htable : ∀ d ∈ m.methods, d.token.isMethodDef) {v : Visit}
    (hv : v ∈ replaced resolver removeTypes m) {d : MethodDef}
    (hd : d ∈ (run resolver removeTypes m).methods) {i : Instruction} (hi : i ∈ d.code) :
    ¬ i.calls v.proxy.entry := by
  obtain ⟨hmet, hresolved⟩ := List.mem_filter.1 hv
  have hentries : ∀ w ∈ met resolver removeTypes m, w.proxy.entry.isMethodDef := fun w hw =>
    met_entry_isMethodDef htable hw
  obtain ⟨d, -, rfl⟩ := mem_methods_run hd
  rw [MethodDef.mapCode_code] at hi
  obtain ⟨old, -, rfl⟩ := Array.mem_map.1 hi
  rcases redirectAll_exact hentries old with ⟨hsame, hnone⟩ | ⟨w, hw, target, hres, -, hdirect⟩
  · rw [hsame]
    exact hnone v hmet hresolved
  · rw [hdirect]
    exact Visit.not_calls_directCall hres (hentries v hmet)

/-- Every delegate type has its turn and is there when it comes, and what is reported as resolved is
a proxy that was met, whose entry nothing calls any more. -/
theorem candidates_present_and_calls_gone {σ : Type} (resolver : Resolver) (removeTypes : Bool)
    (s : σ) (htypes : (m.types.map TypeDef.token).Nodup)
    (htable : ∀ d ∈ m.methods, d.token.isMethodDef) (hacyclic : m.Acyclic) :
    (∀ ty ∈ m.types, ty.isDelegate → ty.token ∈ candidates m ∧
      ∀ before after, candidates m = before ++ ty.token :: after →
        ty.token ∈ (processAll resolver removeTypes before m).module.types.map TypeDef.token) ∧
    ∀ e ∈ ((pass resolver removeTypes).run m s).journal.events, e.kind = .proxyResolved →
      (∃ v ∈ met resolver removeTypes m, e.token = some v.proxy.typeToken) ∧
      ∀ v ∈ met resolver removeTypes m, e.token = some v.proxy.typeToken →
        ∀ d ∈ ((pass resolver removeTypes).run m s).module.methods, ∀ i ∈ d.code,
          ¬ i.calls v.proxy.entry := by
  constructor
  · intro ty hty hdelegate
    exact ⟨mem_candidates.2 ⟨ty, hty, hdelegate, rfl⟩, fun before after hsplit =>
      mem_tokens_at_turn htypes hacyclic hsplit⟩
  · intro e he hkind
    have hreported : e.token ∈ (((pass resolver removeTypes).run m s).journal.events.ofKind
        .proxyResolved).map Event.token :=
      List.mem_map_of_mem (List.mem_filter.2 ⟨he, by simpa using hkind⟩)
    rw [pass_resolvedEvents] at hreported
    obtain ⟨v, hv, htoken⟩ := List.mem_map.1 hreported
    have hmet : v ∈ met resolver removeTypes m := (List.mem_filter.1 hv).1
    refine ⟨⟨v, hmet, htoken.symm⟩, fun w hw hwtoken d hd i hi => ?_⟩
    -- one event is about one proxy, since the tokens are distinct
    obtain rfl : v = w := met_unique htypes hmet hw (Option.some.inj (htoken.trans hwtoken))
    exact not_calls_replaced htable hv hd hi

/-! ## A proxy in a proxy -/

/-- A delegate type in the shape of a proxy for the first member reference. Its methods have the
tokens from `first` on; the last of the three is the entry, which does `work` first. The initializer
ends with the call `hook`. -/
def sampleProxy (token : Token) (name : String) (enclosing : Option Token) (first : UInt32)
    (work : Array Instruction) (hook : Instruction := .call ⟨0x0A000002⟩) : TypeDef where
  token := token
  name := name
  enclosing := enclosing
  isDelegate := true
  methods :=
    [⟨⟨first⟩, ".cctor", 0x10, ⟨false, .void, []⟩, some
        #[⟨.ldcI4Zero, .none⟩, ⟨.ldcI4, .immediate (.int32 0x0A000001)⟩, ⟨.ldcI4Zero, .none⟩,
          hook]⟩,
     ⟨⟨first + 1⟩, "Invoke", 0, ⟨true, .void, []⟩, none⟩,
     ⟨⟨first + 2⟩, "Enter", 0x10, ⟨false, .void, []⟩, some (work.push (.call ⟨first + 1⟩))⟩]

/-- A program that calls the given methods, and the method that the proxies stand for. -/
def sampleProgram (callees : List Token) : TypeDef where
  token := ⟨0x02000009⟩
  name := "Program"
  methods :=
    [⟨⟨0x06000091⟩, "Main", 0x10, ⟨false, .void, []⟩, some (callees.map Instruction.call).toArray⟩,
     ⟨⟨0x06000092⟩, "Write", 0x10, ⟨false, .void, []⟩, none⟩]

/-- A module of these types, with a reference to the method that the proxies stand for. -/
def sampleModule (types : List TypeDef) : Module where
  name := "app"
  types := types
  memberRefs := [⟨⟨0x0A000001⟩, "Program", "Write", .method ⟨false, .void, []⟩⟩]

/-- Two proxies, the second nested in the first, and a program that calls both. -/
def proxyInProxy : Module :=
  sampleModule
    [sampleProxy ⟨0x02000001⟩ "Outer" none 0x06000001 #[],
     sampleProxy ⟨0x02000002⟩ "Inner" (some ⟨0x02000001⟩) 0x06000011 #[],
     sampleProgram [⟨0x06000003⟩, ⟨0x06000013⟩]]

/-- The nested proxy is there when its turn comes, and of the proxies reported nothing is called. -/
theorem proxyInProxy_present_and_calls_gone :
    proxyInProxy.Acyclic ∧
    (∀ before after, candidates proxyInProxy = before ++ ⟨0x02000002⟩ :: after →
      ⟨0x02000002⟩ ∈ (processAll (resolveWith []) true before proxyInProxy).module.types.map
        TypeDef.token) ∧
    ∃ e ∈ ((pass (resolveWith []) true).run proxyInProxy ()).journal.events,
      e.kind = .proxyResolved ∧ ∃ v ∈ met (resolveWith []) true proxyInProxy,
        e.token = some v.proxy.typeToken ∧
        ∀ d ∈ ((pass (resolveWith []) true).run proxyInProxy ()).module.methods, ∀ i ∈ d.code,
          ¬ i.calls v.proxy.entry := by
  have hacyclic : proxyInProxy.Acyclic :=
    Module.acyclic_of_rank (fun t => t.val.toNat) (by decide)
  obtain ⟨hturns, hreports⟩ := candidates_present_and_calls_gone (resolveWith []) true ()
    (m := proxyInProxy) (by decide) (by decide) hacyclic
  have hinner : sampleProxy ⟨0x02000002⟩ "Inner" (some ⟨0x02000001⟩) 0x06000011 #[] ∈
      proxyInProxy.types := by
    decide
  have hreported : ∃ e ∈ ((pass (resolveWith []) true).run proxyInProxy ()).journal.events,
      e.kind = .proxyResolved := by
    decide +kernel
  obtain ⟨e, he, hkind⟩ := hreported
  obtain ⟨⟨v, hv, htoken⟩, hcalls⟩ := hreports e he hkind
  exact ⟨hacyclic, (hturns _ hinner rfl).2, e, he, hkind, v, hv, htoken, hcalls v hv htoken⟩

end Unmask.Proxy
