import Unmask.Proofs.Decrypt.Course
import Unmask.Proofs.Host.Transcript

/-!
# What a run asks its host

A run asks its host to load the image if there is a helper. It then looks up the types of the
helpers in their order, up to the first that is missing. For each type that is found it looks up the
methods that answer for the decrypt methods, and calls those that are found, if at all, with one
`int32`. Nothing else is asked, whatever the host answers: `run_inquiry`.
-/

namespace Unmask.Decrypt

variable {σ : Type}

/-- A live method that was looked up, and the calls made of it. -/
structure MethodInquiry where
  name : String
  found : Bool
  calls : List (Int32 × Except Error Value)
  idle : found = false → calls = []

/-- A live type that was looked up, and what was asked about its methods. -/
structure TypeInquiry where
  name : String
  found : Bool
  methods : List MethodInquiry
  idle : found = false → methods = []

/-- The call of a live method with an `int32`, and the answer. -/
def callExchange (image : ImageId) (typeName name : String) (call : Int32 × Except Error Value) :
    Exchange :=
  .invoke image typeName name [.int32 call.1] call.2

def MethodInquiry.exchanges (image : ImageId) (typeName : String) (q : MethodInquiry) :
    List Exchange :=
  .findMethod image typeName q.name q.found :: q.calls.map (callExchange image typeName q.name)

def TypeInquiry.exchanges (image : ImageId) (q : TypeInquiry) : List Exchange :=
  .findType image q.name q.found :: q.methods.flatMap (MethodInquiry.exchanges image q.name)

/-- The live methods that answer for the decrypt methods of a helper. -/
def oracleNames (numeric : NumericOracle) (helper : DecryptHelper) : List String :=
  (helper.methods.filterMap (oracleFor? numeric helper)).map DecryptMethod.name

/-- The types asked about are those of the helpers, up to the first that is missing. -/
inductive Inquired (numeric : NumericOracle) : List DecryptHelper → List TypeInquiry → Prop
  | done : Inquired numeric [] []
  | missing {helper : DecryptHelper} (rest : List DecryptHelper) {q : TypeInquiry}
      (hname : q.name = helper.runtimeName) (hmissing : q.found = false) :
      Inquired numeric (helper :: rest) [q]
  | found {helper : DecryptHelper} {rest : List DecryptHelper} {q : TypeInquiry}
      {qs : List TypeInquiry} (hname : q.name = helper.runtimeName) (hfound : q.found = true)
      (hmethods : q.methods.map MethodInquiry.name = oracleNames numeric helper)
      (hrest : Inquired numeric rest qs) : Inquired numeric (helper :: rest) (q :: qs)

theorem Inquired.names {numeric : NumericOracle} {found : List DecryptHelper}
    {qs : List TypeInquiry} (h : Inquired numeric found qs) :
    qs.map TypeInquiry.name <+: found.map DecryptHelper.runtimeName := by
  induction h with
  | done => exact List.prefix_refl _
  | missing rest hname => simp [hname]
  | found hname _ _ _ ih => simpa [hname, List.cons_prefix_cons] using ih

/-- What is asked about the helpers of a module if `answer` is the answer to the request for the
image. -/
inductive Inquiry (data : ByteArray) (answer : Except Error ImageId) (numeric : NumericOracle)
    (found : List DecryptHelper) : List Exchange → Prop
  | silent (hnone : found = []) : Inquiry data answer numeric found []
  | refused (hsome : found ≠ []) {e : Error} (hanswer : answer = .error e) :
      Inquiry data answer numeric found [.load data answer]
  | loaded (hsome : found ≠ []) {image : ImageId} (hanswer : answer = .ok image)
      {qs : List TypeInquiry} (hqs : Inquired numeric found qs) :
      Inquiry data answer numeric found
        (.load data answer :: qs.flatMap (TypeInquiry.exchanges image))

theorem MethodInquiry.typeNames (image : ImageId) (typeName : String) (q : MethodInquiry) :
    (q.exchanges image typeName).filterMap Exchange.typeName? = [] := by
  rw [exchanges, List.filterMap_cons_none (by rfl), List.filterMap_map, List.filterMap_eq_nil_iff]
  exact fun _ _ => rfl

theorem TypeInquiry.typeNames (image : ImageId) (qs : List TypeInquiry) :
    (qs.flatMap (TypeInquiry.exchanges image)).filterMap Exchange.typeName? =
      qs.map TypeInquiry.name := by
  induction qs with
  | nil => rfl
  | cons q rest ih =>
    have hmethods : (q.methods.flatMap (MethodInquiry.exchanges image q.name)).filterMap
        Exchange.typeName? = [] := by
      rw [List.filterMap_flatMap, List.flatMap_eq_nil_iff]
      exact fun method _ => method.typeNames image q.name
    rw [List.flatMap_cons, List.filterMap_append, ih, TypeInquiry.exchanges]
    simp [Exchange.typeName?, hmethods]

/-- The types are looked up in the order of the helpers. -/
theorem Inquiry.typeNames {data : ByteArray} {answer : Except Error ImageId}
    {numeric : NumericOracle} {found : List DecryptHelper} {exchanges : List Exchange}
    (h : Inquiry data answer numeric found exchanges) :
    exchanges.filterMap Exchange.typeName? <+: found.map DecryptHelper.runtimeName := by
  cases h with
  | silent => exact List.nil_prefix
  | refused => exact List.nil_prefix
  | loaded _ _ hqs =>
    rw [List.filterMap_cons_none (by rfl), TypeInquiry.typeNames]
    exact hqs.names

/-- The look-up of a method among the questions about a type. -/
theorem TypeInquiry.of_findMethod {image image' : ImageId} {q : TypeInquiry}
    {typeName name : String} {there : Bool}
    (h : .findMethod image' typeName name there ∈ q.exchanges image) :
    typeName = q.name ∧ name ∈ q.methods.map MethodInquiry.name := by
  rcases List.mem_cons.1 h with hhead | hrest
  · cases hhead
  · obtain ⟨method, hmethod, hasked⟩ := List.mem_flatMap.1 hrest
    rcases List.mem_cons.1 hasked with hlookup | hcall
    · obtain ⟨-, rfl, rfl, -⟩ := Exchange.findMethod.inj hlookup
      exact ⟨rfl, List.mem_map_of_mem hmethod⟩
    · obtain ⟨_, -, hinvoke⟩ := List.mem_map.1 hcall
      cases hinvoke

/-- The methods looked up are those that answer for the methods of a helper. -/
theorem Inquired.of_findMethod {numeric : NumericOracle} {found : List DecryptHelper}
    {qs : List TypeInquiry} (h : Inquired numeric found qs) {image image' : ImageId}
    {typeName name : String} {there : Bool}
    (hasked : .findMethod image' typeName name there ∈ qs.flatMap (TypeInquiry.exchanges image)) :
    ∃ helper ∈ found, typeName = helper.runtimeName ∧ name ∈ oracleNames numeric helper := by
  induction h with
  | done => cases hasked
  | @missing helper rest q hname hmissing =>
    rw [List.flatMap_singleton] at hasked
    obtain ⟨-, hmethod⟩ := TypeInquiry.of_findMethod hasked
    rw [q.idle hmissing] at hmethod
    cases hmethod
  | @found helper rest q qs hname hfound hmethods hrest ih =>
    rw [List.flatMap_cons, List.mem_append] at hasked
    rcases hasked with hown | hlater
    · obtain ⟨htype, hmethod⟩ := TypeInquiry.of_findMethod hown
      exact ⟨helper, List.mem_cons_self, htype.trans hname, hmethods ▸ hmethod⟩
    · obtain ⟨other, hother, hnames⟩ := ih hlater
      exact ⟨other, List.mem_cons_of_mem helper hother, hnames⟩

theorem Inquiry.of_findMethod {data : ByteArray} {answer : Except Error ImageId}
    {numeric : NumericOracle} {found : List DecryptHelper} {exchanges : List Exchange}
    (h : Inquiry data answer numeric found exchanges) {image : ImageId} {typeName name : String}
    {there : Bool} (hasked : .findMethod image typeName name there ∈ exchanges) :
    ∃ helper ∈ found, typeName = helper.runtimeName ∧ name ∈ oracleNames numeric helper := by
  cases h with
  | silent => cases hasked
  | refused =>
    obtain hload | hnone := List.mem_cons.1 hasked
    · cases hload
    · cases hnone
  | loaded _ _ hqs =>
    obtain hload | hlater := List.mem_cons.1 hasked
    · cases hload
    · exact hqs.of_findMethod hlater

/-! ## Level by level -/

variable (host : Host σ) (numeric : NumericOracle) (image : ImageId)

/-- The calls of a live method. -/
def Live.exchanges (live : Live) (calls : List (Int32 × Except Error Value)) : List Exchange :=
  calls.map (callExchange live.image live.typeName live.method)

/-- A site asks its live method once or not at all. -/
theorem patchSite_calls (method : DecryptMethod) (live : Live) (site : Site)
    (walk : Walk (σ × List Exchange)) :
    ∃ calls, (patchSite host.recording method live site walk).2.oracle.host.2 =
      walk.oracle.host.2 ++ live.exchanges calls := by
  unfold patchSite
  split
  · exact ⟨[], (List.append_nil _).symm⟩
  split
  · exact ⟨[], (List.append_nil _).symm⟩
  · rename_i arg _
    have hasked : ∃ calls, (ask host.recording live arg walk.oracle).state.host.2 =
        walk.oracle.host.2 ++ live.exchanges calls := by
      unfold ask
      split
      · exact ⟨[], (List.append_nil _).symm⟩
      · exact ⟨[(arg, _)], rfl⟩
    simp only
    split
    · exact hasked
    · exact hasked

/-- The walk over the sites of a decrypt method asks about nothing but its live method. -/
theorem patch_calls (method : DecryptMethod) (live : Live) (m : Module)
    (walk : Walk (σ × List Exchange)) :
    ∃ calls, (m.patch (patchSite host.recording method live) walk).state.oracle.host.2 =
      walk.oracle.host.2 ++ live.exchanges calls := by
  let Asked (w : Walk (σ × List Exchange)) : Prop :=
    ∃ calls, w.oracle.host.2 = walk.oracle.host.2 ++ live.exchanges calls
  refine patch_keeps (P := Asked) (fun site w hw => ?_) m ⟨[], (List.append_nil _).symm⟩
  obtain ⟨calls, hcalls⟩ := hw
  obtain ⟨more, hmore⟩ := patchSite_calls host method live site w
  refine ⟨calls ++ more, ?_⟩
  rw [hmore, hcalls, Live.exchanges, Live.exchanges, Live.exchanges, List.map_append,
    List.append_assoc]

theorem heard_methodReply (helper : DecryptHelper) (oracle : DecryptMethod)
    (p : Progress (σ × List Exchange)) :
    let reply := methodReply host.recording image helper oracle p
    (p.heard reply).walk.oracle.host.2 = p.walk.oracle.host.2 ++
      [.findMethod image helper.runtimeName oracle.name reply.value] := rfl

theorem heard_typeReply (helper : DecryptHelper) (p : Progress (σ × List Exchange)) :
    let reply := typeReply host.recording image helper p
    (p.heard reply).walk.oracle.host.2 =
      p.walk.oracle.host.2 ++ [.findType image helper.runtimeName reply.value] := rfl

/-- A decrypt method looks up the live method that answers for it. -/
theorem decryptMethod_inquiry (helper : DecryptHelper) (p : Progress (σ × List Exchange))
    (method : DecryptMethod) :
    ∃ qs : List MethodInquiry,
      qs.map MethodInquiry.name =
        (oracleFor? numeric helper method).toList.map DecryptMethod.name ∧
      (decryptMethod host.recording numeric image helper p method).walk.oracle.host.2 =
        p.walk.oracle.host.2 ++
          qs.flatMap (MethodInquiry.exchanges image helper.runtimeName) := by
  rcases decryptMethod_cases host.recording numeric image helper p method with
    ⟨hnone, note, hdone⟩ | ⟨oracle, horacle, ⟨hmissing, note, hdone⟩ | ⟨hfound, hdone⟩⟩
  · exact ⟨[], by rw [hnone]; rfl, by rw [hdone]; exact (List.append_nil _).symm⟩
  · refine ⟨[⟨oracle.name, false, [], fun _ => rfl⟩], by rw [horacle]; rfl, ?_⟩
    rw [hdone, Progress.note_oracle, heard_methodReply, hmissing]
    rfl
  · obtain ⟨calls, hcalls⟩ := patch_calls host method (liveMethod image helper oracle) p.module
      (p.heard (methodReply host.recording image helper oracle p)).walk
    refine ⟨[⟨oracle.name, true, calls, nofun⟩], by rw [horacle]; rfl, ?_⟩
    rw [hdone, Progress.turn_oracle, Progress.heard_module, hcalls, heard_methodReply, hfound,
      List.append_assoc]
    simp [MethodInquiry.exchanges, Live.exchanges, liveMethod]

theorem foldl_decryptMethod_inquiry (helper : DecryptHelper) (l : List DecryptMethod)
    (p : Progress (σ × List Exchange)) :
    ∃ qs : List MethodInquiry,
      qs.map MethodInquiry.name =
        (l.filterMap (oracleFor? numeric helper)).map DecryptMethod.name ∧
      (l.foldl (decryptMethod host.recording numeric image helper) p).walk.oracle.host.2 =
        p.walk.oracle.host.2 ++
          qs.flatMap (MethodInquiry.exchanges image helper.runtimeName) := by
  induction l generalizing p with
  | nil => exact ⟨[], rfl, (List.append_nil _).symm⟩
  | cons method rest ih =>
    obtain ⟨qs, hnames, hasked⟩ := decryptMethod_inquiry host numeric image helper p method
    obtain ⟨qs', hnames', hasked'⟩ :=
      ih (decryptMethod host.recording numeric image helper p method)
    refine ⟨qs ++ qs', ?_, ?_⟩
    · rw [List.map_append, hnames, hnames']
      cases h : oracleFor? numeric helper method <;> simp [h]
    · rw [List.foldl_cons, hasked', hasked, List.flatMap_append, List.append_assoc]

/-- The helpers are asked about in turn, until the type of one is missing. -/
theorem decryptHelpers_inquiry (found : List DecryptHelper) (p : Progress (σ × List Exchange)) :
    ∃ qs, Inquired numeric found qs ∧
      (decryptHelpers host.recording numeric image found p).walk.oracle.host.2 =
        p.walk.oracle.host.2 ++ qs.flatMap (TypeInquiry.exchanges image) := by
  induction found generalizing p with
  | nil => exact ⟨[], .done, (List.append_nil _).symm⟩
  | cons helper rest ih =>
    rcases decryptHelpers_cons host.recording numeric image helper p rest with
      ⟨hmissing, note, hdone⟩ | ⟨hfound, hdone⟩
    · refine ⟨[⟨helper.runtimeName, false, [], fun _ => rfl⟩], .missing rest rfl rfl, ?_⟩
      rw [hdone, Progress.note_oracle, heard_typeReply, hmissing]
      rfl
    · obtain ⟨qs, hnames, hasked⟩ := foldl_decryptMethod_inquiry host numeric image helper
        helper.methods (p.heard (typeReply host.recording image helper p))
      obtain ⟨ts, hts, hlater⟩ := ih (helper.methods.foldl
        (decryptMethod host.recording numeric image helper)
        (p.heard (typeReply host.recording image helper p)))
      refine ⟨⟨helper.runtimeName, true, qs, nofun⟩ :: ts, .found rfl rfl hnames hts, ?_⟩
      rw [hdone, hlater, hasked, heard_typeReply, hfound]
      simp [TypeInquiry.exchanges]

omit image in
/-- What a run over a module asks its host. -/
theorem run_inquiry (data : ByteArray) (m : Module) (o : Oracle (σ × List Exchange)) :
    ∃ exchanges, Inquiry data (host.load data o.host.1).value numeric (helpers m).1 exchanges ∧
      (run host.recording data numeric m o).state.host.2 = o.host.2 ++ exchanges := by
  rcases run_cases host.recording numeric data m o with
    ⟨hnone, -, hstate⟩ | ⟨hsome, ⟨e, he, -, hstate⟩ | ⟨image, hok, -, hstate⟩⟩
  · exact ⟨[], .silent hnone, by rw [hstate, List.append_nil]⟩
  · exact ⟨_, .refused hsome he, by rw [hstate]; rfl⟩
  · obtain ⟨qs, hqs, hasked⟩ := decryptHelpers_inquiry host numeric image (helpers m).1
      (Progress.start host.recording data m o)
    refine ⟨_, .loaded hsome hok hqs, ?_⟩
    rw [hstate, hasked, List.append_cons]
    rfl

end Unmask.Decrypt
