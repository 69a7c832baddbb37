import Mathlib.Data.List.Flatten
import Mathlib.Data.List.Pairwise
import Unmask.Module.Resolve
import Unmask.Proofs.Module.Edit
import Unmask.Proofs.Module.Nesting

/-!
# Reductions of a module

A reduction maps the instructions of a module and takes out the types of some tokens. Where it takes
out whole nesting trees, the types that stay keep their names, and a reference resolves among them
as it did before: to the first of its definitions that is left.
-/

namespace Unmask

/-! ## What mapping the instructions leaves alone -/

namespace MethodDef

variable (f : Instruction → Instruction) (d : MethodDef)

@[simp] theorem mapCode_token : (d.mapCode f).token = d.token := rfl
@[simp] theorem mapCode_name : (d.mapCode f).name = d.name := rfl
@[simp] theorem mapCode_signature : (d.mapCode f).signature = d.signature := rfl
@[simp] theorem mapCode_isStatic : (d.mapCode f).isStatic = d.isStatic := rfl
@[simp] theorem mapCode_isConstructor : (d.mapCode f).isConstructor = d.isConstructor := rfl

@[simp] theorem mapCode_code : (d.mapCode f).code = d.code.map f := by
  unfold code mapCode
  cases d.body <;> simp

theorem mapCode_id : d.mapCode id = d := by
  cases d
  simp [mapCode]

theorem mapCode_mapCode (g : Instruction → Instruction) :
    (d.mapCode f).mapCode g = d.mapCode (g ∘ f) := by
  simp [mapCode, Function.comp_def]

variable {f d}

theorem mapCode_eq_self (h : ∀ i ∈ d.code, f i = i) : d.mapCode f = d := by
  have hbody : d.body.map (Array.map f) = d.body := by
    cases hcode : d.body with
    | none => rfl
    | some body =>
      have hsame : ∀ i ∈ body, f i = id i := by
        intro i hi
        exact h i (by simpa [code, hcode] using hi)
      rw [Option.map_some, Array.map_congr_left hsame, Array.map_id]
  unfold mapCode
  rw [hbody]

end MethodDef

namespace TypeDef

variable (f : Instruction → Instruction) (ty : TypeDef)

@[simp] theorem mapCode_token : (ty.mapCode f).token = ty.token := rfl
@[simp] theorem mapCode_name : (ty.mapCode f).name = ty.name := rfl
@[simp] theorem mapCode_namespaceName : (ty.mapCode f).namespaceName = ty.namespaceName := rfl
@[simp] theorem mapCode_enclosing : (ty.mapCode f).enclosing = ty.enclosing := rfl
@[simp] theorem mapCode_methods :
    (ty.mapCode f).methods = ty.methods.map (MethodDef.mapCode f) := rfl
@[simp] theorem staticConstructor?_mapCode :
    (ty.mapCode f).staticConstructor? = ty.staticConstructor?.map (MethodDef.mapCode f) :=
  List.find?_map ..
@[simp] theorem methodNamed?_mapCode (name : String) :
    (ty.mapCode f).methodNamed? name = (ty.methodNamed? name).map (MethodDef.mapCode f) :=
  List.find?_map ..

theorem mapCode_id : ty.mapCode id = ty := by
  cases ty
  simp [mapCode, funext MethodDef.mapCode_id]

theorem mapCode_mapCode (g : Instruction → Instruction) :
    (ty.mapCode f).mapCode g = ty.mapCode (g ∘ f) := by
  simp [mapCode, Function.comp_def, MethodDef.mapCode_mapCode]

end TypeDef

namespace Module

variable {f : Instruction → Instruction} {gone : List Token} {m : Module}

theorem closeNested_map (types : List TypeDef) (fuel i : Nat) (found : List Token) :
    closeNested (types.map (TypeDef.mapCode f)) fuel i found = closeNested types fuel i found := by
  induction fuel generalizing i found with
  | zero => rfl
  | succ fuel ih =>
    have hadd : ∀ parent, addNested (types.map (TypeDef.mapCode f)) parent found =
        addNested types parent found := fun parent => List.foldl_map
    simp only [closeNested, hadd, ih]

@[simp] theorem typeAndNested_mapCode (t : Token) :
    (m.mapCode f).typeAndNested t = m.typeAndNested t := by
  simp [typeAndNested, mapCode, closeNested_map]

/-! ## Reductions -/

/-- Maps the instructions and takes out the types of the tokens in `gone`. -/
def reduce (f : Instruction → Instruction) (gone : List Token) (m : Module) : Module :=
  { m with types := (m.types.filter fun ty => ty.token ∉ gone).map (TypeDef.mapCode f) }

theorem reduce_nil (f : Instruction → Instruction) (m : Module) : m.reduce f [] = m.mapCode f := by
  simp [reduce, mapCode]

/-- A map that fixes every instruction changes nothing. -/
theorem mapCode_eq_self (h : ∀ i ∈ m.slots, f i = i) : m.mapCode f = m := by
  have htype : ∀ ty ∈ m.types, ty.mapCode f = id ty := by
    intro ty hty
    have hmethods : ty.methods.map (MethodDef.mapCode f) = ty.methods := by
      refine (List.map_congr_left fun d hd => ?_).trans (List.map_id ty.methods)
      exact MethodDef.mapCode_eq_self fun i hi =>
        h i (mem_slots.2 ⟨d, List.mem_flatMap.2 ⟨ty, hty, hd⟩, hi⟩)
    unfold TypeDef.mapCode
    rw [hmethods]
    rfl
  unfold mapCode
  rw [List.map_congr_left htype, List.map_id]

theorem reduce_id (m : Module) : m.reduce id [] = m := by
  cases m
  simp [reduce, funext TypeDef.mapCode_id]

theorem reduce_reduce (f g : Instruction → Instruction) (gone gone' : List Token) (m : Module) :
    (m.reduce f gone).reduce g gone' = m.reduce (g ∘ f) (gone ++ gone') := by
  have hkept : (fun ty : TypeDef => decide (ty.token ∉ gone')) ∘ TypeDef.mapCode f =
      fun ty => decide (ty.token ∉ gone') := rfl
  simp only [reduce, List.filter_map, List.map_map, List.filter_filter, hkept]
  congr 2
  · funext ty
    exact TypeDef.mapCode_mapCode f ty g
  · apply List.filter_congr
    intro ty _
    simp [Bool.and_comm]

@[simp] theorem reduce_name : (m.reduce f gone).name = m.name := rfl
@[simp] theorem reduce_memberRefs : (m.reduce f gone).memberRefs = m.memberRefs := rfl
@[simp] theorem memberRef?_reduce (t : Token) :
    (m.reduce f gone).memberRef? t = m.memberRef? t := rfl

theorem mem_types_reduce {ty' : TypeDef} : ty' ∈ (m.reduce f gone).types ↔
    ∃ ty ∈ m.types, ty.token ∉ gone ∧ ty.mapCode f = ty' := by
  simp [reduce, and_assoc]

theorem mem_tokens_reduce {t : Token} : t ∈ (m.reduce f gone).types.map TypeDef.token ↔
    t ∈ m.types.map TypeDef.token ∧ t ∉ gone := by
  simp only [List.mem_map, mem_types_reduce]
  constructor
  · rintro ⟨_, ⟨ty, hty, hkept, rfl⟩, rfl⟩
    exact ⟨⟨ty, hty, rfl⟩, hkept⟩
  · rintro ⟨⟨ty, hty, rfl⟩, hkept⟩
    exact ⟨ty.mapCode f, ⟨ty, hty, hkept, rfl⟩, rfl⟩

/-- The methods that stay are methods of the module with their instructions mapped. -/
theorem mem_methods_reduce {d' : MethodDef} (h : d' ∈ (m.reduce f gone).methods) :
    ∃ d ∈ m.methods, d' = d.mapCode f := by
  obtain ⟨ty', hty', hd'⟩ := List.mem_flatMap.1 h
  obtain ⟨ty, hty, -, rfl⟩ := mem_types_reduce.1 hty'
  obtain ⟨d, hd, rfl⟩ := List.mem_map.1 hd'
  exact ⟨d, List.mem_flatMap.2 ⟨ty, hty, hd⟩, rfl⟩

theorem typeDef?_reduce {t : Token} (h : t ∉ gone) :
    (m.reduce f gone).typeDef? t = (m.typeDef? t).map (TypeDef.mapCode f) := by
  simp only [typeDef?, reduce, List.find?_map, List.find?_filter]
  congr 2
  funext ty
  by_cases ht : ty.token = t
  · simp [ht, h]
  · simp [ht]

@[simp] theorem isSome_typeDef?_mapCode (t : Token) :
    ((m.mapCode f).typeDef? t).isSome = (m.typeDef? t).isSome := by
  rw [← reduce_nil, typeDef?_reduce List.not_mem_nil, Option.isSome_map]

/-! ## Distinct tokens -/

/-- In a list of lists without repetition, an item is in one of them only. -/
theorem eq_of_nodup_flatMap {α β : Type} {l : List α} {f : α → List β} (h : (l.flatMap f).Nodup)
    {a b : α} (ha : a ∈ l) (hb : b ∈ l) {x : β} (hxa : x ∈ f a) (hxb : x ∈ f b) : a = b := by
  rw [List.nodup_flatMap] at h
  by_contra hne
  have : Std.Symm (Function.onFun List.Disjoint f) := ⟨fun _ _ h => List.disjoint_symm h⟩
  exact h.2.forall ha hb hne hxa hxb

theorem typeDef?_of_mem (h : (m.types.map TypeDef.token).Nodup) {ty : TypeDef}
    (hty : ty ∈ m.types) : m.typeDef? ty.token = some ty := by
  obtain ⟨found, hfound⟩ : ∃ found, m.typeDef? ty.token = some found :=
    Option.isSome_iff_exists.1 (List.find?_isSome.2 ⟨ty, hty, by simp⟩)
  have htoken : found.token = ty.token := by simpa using List.find?_some hfound
  rw [hfound, List.inj_on_of_nodup_map h (List.mem_of_find?_eq_some hfound) hty htoken]

theorem method?_of_mem (h : (m.methods.map MethodDef.token).Nodup) {d : MethodDef}
    (hd : d ∈ m.methods) (htable : d.token.isMethodDef) : m.method? d.token = some d := by
  obtain ⟨found, hfound⟩ : ∃ found, m.methods.find? (fun e => e.token = d.token) = some found :=
    Option.isSome_iff_exists.1 (List.find?_isSome.2 ⟨d, hd, by simp⟩)
  have htoken : found.token = d.token := by simpa using List.find?_some hfound
  rw [method?, if_pos htable, hfound,
    List.inj_on_of_nodup_map h (List.mem_of_find?_eq_some hfound) hd htoken]

theorem methodSignature?_of_mem (h : (m.methods.map MethodDef.token).Nodup) {d : MethodDef}
    (hd : d ∈ m.methods) (htable : d.token.isMethodDef) :
    m.methodSignature? d.token = some d.signature := by
  simp [methodSignature?, htable, method?_of_mem h hd htable]

/-! ## Names -/

/-- A type that stays keeps the types around it. -/
theorem parent?_reduce (hclosed : NestingClosed m.types gone) {ty : TypeDef} (hty : ty ∈ m.types)
    (hkept : ty.token ∉ gone) :
    (m.reduce f gone).parent? (ty.mapCode f) = (m.parent? ty).map (TypeDef.mapCode f) := by
  unfold parent?
  cases henc : ty.enclosing with
  | none => simp [henc]
  | some parent =>
    have hparent : parent ∉ gone := fun hgone => hkept (hclosed ty hty parent hgone henc)
    simp [henc, typeDef?_reduce hparent]

theorem parent?_kept (hclosed : NestingClosed m.types gone) {ty parent : TypeDef}
    (hty : ty ∈ m.types) (hkept : ty.token ∉ gone) (h : m.parent? ty = some parent) :
    parent.token ∉ gone := by
  obtain ⟨t, henc, ht⟩ := Option.bind_eq_some_iff.1 h
  obtain rfl : parent.token = t := by simpa using List.find?_some ht
  exact fun hgone => hkept (hclosed ty hty _ hgone henc)

theorem chainFrom_reduce (hclosed : NestingClosed m.types gone) (fuel : Nat) (seen : List Token)
    {ty : TypeDef} (hty : ty ∈ m.types) (hkept : ty.token ∉ gone) :
    (m.reduce f gone).chainFrom fuel seen (ty.mapCode f) =
      (m.chainFrom fuel seen ty).map (TypeDef.mapCode f) := by
  induction fuel generalizing seen ty with
  | zero => rfl
  | succ fuel ih =>
    unfold chainFrom
    rw [parent?_reduce hclosed hty hkept]
    cases hparent : m.parent? ty with
    | none => rfl
    | some parent =>
      have hrest := ih (parent.token :: seen) (parent?_mem hparent)
        (parent?_kept hclosed hty hkept hparent)
      by_cases hseen : parent.token ∈ seen
      · simp [hseen]
      · simp [hseen, hrest]

theorem enclosingChain_reduce (hclosed : NestingClosed m.types gone) {ty : TypeDef}
    (hty : ty ∈ m.types) (hkept : ty.token ∉ gone) :
    (m.reduce f gone).enclosingChain (ty.mapCode f) =
      (m.enclosingChain ty).map (TypeDef.mapCode f) := by
  have hlen : (m.reduce f gone).types.length ≤ m.types.length := by
    simpa [reduce] using List.length_filter_le _ m.types
  rw [enclosingChain_eq hlen]
  exact chainFrom_reduce hclosed m.types.length [ty.token] hty hkept

theorem qualifiedName_reduce (hclosed : NestingClosed m.types gone) (separator : String)
    {ty : TypeDef} (hty : ty ∈ m.types) (hkept : ty.token ∉ gone) :
    (m.reduce f gone).qualifiedName separator (ty.mapCode f) = m.qualifiedName separator ty := by
  simp only [qualifiedName, enclosingChain_reduce hclosed hty hkept, List.getLast?_map,
    Option.map_map, ← List.map_reverse, List.map_map]
  rfl

theorem fullName_reduce (hclosed : NestingClosed m.types gone) {ty : TypeDef} (hty : ty ∈ m.types)
    (hkept : ty.token ∉ gone) : (m.reduce f gone).fullName (ty.mapCode f) = m.fullName ty :=
  qualifiedName_reduce hclosed "/" hty hkept

/-! ## Definitions -/

/-- The definitions of a reference in a module, in the order of the search. -/
def definitions (m : Module) (r : MemberRef) : List (TypeDef × MethodDef) :=
  match r.methodSignature? with
  | none => []
  | some s =>
    (m.methodsOfClass r.className).filter fun x => x.2.name = r.name && x.2.signature = s

/-- What a reference with this definition resolves to. -/
def resolvedAs (m : Module) (x : TypeDef × MethodDef) : ResolvedMethod where
  token := x.2.token
  fullName := m.fullName x.1 ++ "::" ++ x.2.name
  isStatic := x.2.isStatic
  isConstructor := x.2.isConstructor

theorem definitions_eq {r : MemberRef} {s : MethodSignature} (h : r.methodSignature? = some s) :
    m.definitions r =
      (m.methodsOfClass r.className).filter fun x => x.2.name = r.name && x.2.signature = s := by
  simp [definitions, h]

theorem mem_types_of_methodsOfClass {className : String} {x : TypeDef × MethodDef}
    (h : x ∈ m.methodsOfClass className) : x.1 ∈ m.types := by
  obtain ⟨ty, hty, hx⟩ := List.mem_flatMap.1 h
  obtain ⟨d, -, rfl⟩ := List.mem_map.1 hx
  exact (List.mem_filter.1 hty).1

theorem mem_types_of_definitions {r : MemberRef} {x : TypeDef × MethodDef}
    (h : x ∈ m.definitions r) : x.1 ∈ m.types := by
  cases hs : r.methodSignature? with
  | none => simp [definitions, hs] at h
  | some s =>
    rw [definitions_eq hs] at h
    exact mem_types_of_methodsOfClass (List.mem_filter.1 h).1

/-- A reference resolves to its first definition in the module and the reference modules. -/
theorem resolveWith_eq (references : List Module) (m : Module) (r : MemberRef) :
    resolveWith references m r =
      ((m :: references).flatMap fun c => (c.definitions r).map c.resolvedAs).head? := by
  rw [List.head?_flatMap]
  cases hs : r.methodSignature? with
  | none =>
    symm
    simp [resolveWith, definitions, hs, List.findSome?_eq_none_iff]
  | some s =>
    have hfind : ∀ c : Module, c.findDefinition? r s =
        ((c.definitions r).map c.resolvedAs).head? := by
      intro c
      rw [definitions_eq hs, List.head?_map, List.head?_filter]
      rfl
    simp only [resolveWith, hs, Option.bind_some, hfind]

/-- What a reference resolves to is a constructor if its name says so. -/
theorem resolveWith_isConstructor {references : List Module} {r : MemberRef}
    {target : ResolvedMethod} (h : resolveWith references m r = some target) :
    target.isConstructor = (r.name = ".ctor" || r.name = ".cctor") := by
  rw [resolveWith_eq] at h
  obtain ⟨c, -, hc⟩ := List.mem_flatMap.1 (List.mem_of_head? h)
  obtain ⟨x, hx, rfl⟩ := List.mem_map.1 hc
  cases hs : r.methodSignature? with
  | none => simp [definitions, hs] at hx
  | some s =>
    rw [definitions_eq hs] at hx
    have hname : x.2.name = r.name := by
      have hmatch := (List.mem_filter.1 hx).2
      simp only [Bool.and_eq_true, decide_eq_true_eq] at hmatch
      exact hmatch.1
    simp [resolvedAs, MethodDef.isConstructor, MethodDef.isStaticConstructor, hname]

theorem filter_methods (keep : TypeDef → Bool) (types : List TypeDef) :
    (types.flatMap fun ty => ty.methods.map fun d => (ty, d)).filter (fun x => keep x.1) =
      (types.filter keep).flatMap fun ty => ty.methods.map fun d => (ty, d) := by
  induction types with
  | nil => rfl
  | cons ty rest ih =>
    rw [List.flatMap_cons, List.filter_append, ih]
    cases hkeep : keep ty with
    | true => simp [hkeep, List.filter_map, Function.comp_def]
    | false => simp [hkeep, List.filter_map, Function.comp_def]

/-- The methods of a class in a reduction are those of the types that stay. -/
theorem methodsOfClass_reduce (hclosed : NestingClosed m.types gone) (className : String) :
    (m.reduce f gone).methodsOfClass className =
      ((m.methodsOfClass className).filter fun x => x.1.token ∉ gone).map
        fun x => (x.1.mapCode f, x.2.mapCode f) := by
  have htypes : (m.reduce f gone).types.filter
        (fun ty => (m.reduce f gone).fullName ty = className) =
      ((m.types.filter fun ty => m.fullName ty = className).filter
        fun ty => ty.token ∉ gone).map (TypeDef.mapCode f) := by
    show ((m.types.filter _).map (TypeDef.mapCode f)).filter _ = _
    rw [List.filter_map, List.filter_filter, List.filter_filter]
    congr 1
    apply List.filter_congr
    intro ty hty
    by_cases hkept : ty.token ∈ gone
    · simp [hkept]
    · simp [hkept, fullName_reduce hclosed hty hkept]
  unfold methodsOfClass
  rw [htypes, filter_methods (fun ty => ty.token ∉ gone), List.flatMap_map, List.map_flatMap]
  simp [Function.comp_def]

theorem resolvedAs_reduce (hclosed : NestingClosed m.types gone) {x : TypeDef × MethodDef}
    (hx : x.1 ∈ m.types) (hkept : x.1.token ∉ gone) :
    (m.reduce f gone).resolvedAs (x.1.mapCode f, x.2.mapCode f) = m.resolvedAs x := by
  simp [resolvedAs, fullName_reduce hclosed hx hkept]

/-- The definitions of a reference in a reduction are those in types that stay. -/
theorem definitions_reduce_eq_map (hclosed : NestingClosed m.types gone) (r : MemberRef) :
    (m.reduce f gone).definitions r = ((m.definitions r).filter fun x => x.1.token ∉ gone).map
      fun x => (x.1.mapCode f, x.2.mapCode f) := by
  cases hs : r.methodSignature? with
  | none => simp [definitions, hs]
  | some s =>
    rw [definitions_eq hs, definitions_eq hs, methodsOfClass_reduce hclosed, List.filter_map,
      List.filter_filter, List.filter_filter]
    congr 1
    apply List.filter_congr
    intro x _
    exact Bool.and_comm _ _

/-- What a reference can resolve to in a module, in the order of the search, each with the token of
the type that declares it. -/
def resolutions (m : Module) (r : MemberRef) : List (Token × ResolvedMethod) :=
  (m.definitions r).map fun x => (x.1.token, m.resolvedAs x)

theorem map_snd_resolutions (m : Module) (r : MemberRef) :
    (m.resolutions r).map Prod.snd = (m.definitions r).map m.resolvedAs := by
  simp [resolutions, Function.comp_def]

theorem resolutions_reduce (hclosed : NestingClosed m.types gone) (r : MemberRef) :
    (m.reduce f gone).resolutions r = (m.resolutions r).filter fun x => x.1 ∉ gone := by
  simp only [resolutions, definitions_reduce_eq_map hclosed, List.map_map, List.filter_map]
  apply List.map_congr_left
  intro x hx
  obtain ⟨hdef, hkept⟩ := List.mem_filter.1 hx
  have hresolved := resolvedAs_reduce (f := f) hclosed (mem_types_of_definitions hdef)
    (by simpa using hkept)
  simp [hresolved]

theorem definitions_reduce (hclosed : NestingClosed m.types gone) (r : MemberRef) :
    ((m.reduce f gone).definitions r).map (m.reduce f gone).resolvedAs =
      ((m.definitions r).filter fun x => x.1.token ∉ gone).map m.resolvedAs := by
  rw [← map_snd_resolutions, resolutions_reduce hclosed]
  simp [resolutions, List.filter_map, Function.comp_def]

/-! ## Successive reductions -/

/-- `m'` is `m` with other instructions and without some whole nesting trees. -/
def Reduces (m m' : Module) : Prop :=
  ∃ f gone, NestingClosed m.types gone ∧ m' = m.reduce f gone

theorem Reduces.refl (m : Module) : m.Reduces m :=
  ⟨id, [], fun _ _ _ h => absurd h List.not_mem_nil, (reduce_id m).symm⟩

theorem Reduces.trans {m₁ m₂ m₃ : Module} (h : m₁.Reduces m₂) (h' : m₂.Reduces m₃) :
    m₁.Reduces m₃ := by
  obtain ⟨f, gone, hclosed, rfl⟩ := h
  obtain ⟨g, gone', hclosed', rfl⟩ := h'
  refine ⟨g ∘ f, gone ++ gone', ?_, reduce_reduce f g gone gone' m₁⟩
  intro ty hty parent hparent henc
  rw [List.mem_append] at hparent ⊢
  by_cases hkept : ty.token ∈ gone
  · exact .inl hkept
  · rcases hparent with hparent | hparent
    · exact .inl (hclosed ty hty parent hparent henc)
    · exact .inr (hclosed' (ty.mapCode f) (mem_types_reduce.2 ⟨ty, hty, hkept, rfl⟩) parent hparent
        henc)

theorem Reduces.exists_type {m m' : Module} (h : m.Reduces m') {ty' : TypeDef}
    (hty' : ty' ∈ m'.types) : ∃ f, ∃ ty ∈ m.types, ty' = ty.mapCode f := by
  obtain ⟨f, gone, -, rfl⟩ := h
  obtain ⟨ty, hty, -, rfl⟩ := mem_types_reduce.1 hty'
  exact ⟨f, ty, hty, rfl⟩

/-- With distinct tokens, a type whose token is left is left itself. -/
theorem Reduces.exists_mapCode {m m' : Module} (h : m.Reduces m')
    (htypes : (m.types.map TypeDef.token).Nodup) {ty : TypeDef} (hty : ty ∈ m.types)
    (hleft : ty.token ∈ m'.types.map TypeDef.token) : ∃ f, ty.mapCode f ∈ m'.types := by
  obtain ⟨ty', hty', htoken⟩ := List.mem_map.1 hleft
  obtain ⟨f, ty₀, hty₀, rfl⟩ := h.exists_type hty'
  obtain rfl : ty₀ = ty := List.inj_on_of_nodup_map htypes hty₀ hty htoken
  exact ⟨f, hty'⟩

theorem Reduces.types_sublist {m m' : Module} (h : m.Reduces m') :
    (m'.types.map TypeDef.token).Sublist (m.types.map TypeDef.token) := by
  obtain ⟨f, gone, -, rfl⟩ := h
  rw [reduce, List.map_map]
  exact List.filter_sublist.map TypeDef.token

theorem Reduces.methods_sublist {m m' : Module} (h : m.Reduces m') :
    (m'.methods.map MethodDef.token).Sublist (m.methods.map MethodDef.token) := by
  obtain ⟨f, gone, -, rfl⟩ := h
  simp only [methods, reduce, List.flatMap_map, List.map_flatMap, TypeDef.mapCode_methods,
    List.map_map]
  exact List.filter_sublist.flatMap _

theorem Reduces.memberRef? {m m' : Module} (h : m.Reduces m') (t : Token) :
    m'.memberRef? t = m.memberRef? t := by
  obtain ⟨f, gone, -, rfl⟩ := h
  exact memberRef?_reduce t

/-- Definitions apart, a reduction keeps the signatures. -/
theorem Reduces.methodSignature? {m m' : Module} (h : m.Reduces m') {t : Token}
    (ht : ¬ t.isMethodDef) : m'.methodSignature? t = m.methodSignature? t := by
  simp [Module.methodSignature?, ht, h.memberRef?]

/-- The definitions left after a reduction are those whose types are left. -/
theorem Reduces.definitions {m m' : Module} (h : m.Reduces m') (r : MemberRef) :
    (m'.definitions r).map m'.resolvedAs =
      ((m.definitions r).filter fun x => x.1.token ∈ m'.types.map TypeDef.token).map
        m.resolvedAs := by
  obtain ⟨f, gone, hclosed, rfl⟩ := h
  rw [definitions_reduce hclosed]
  congr 1
  apply List.filter_congr
  intro x hx
  have hmem : x.1.token ∈ m.types.map TypeDef.token :=
    List.mem_map_of_mem (mem_types_of_definitions hx)
  simp only [mem_tokens_reduce, hmem, true_and]

end Module

end Unmask
