import Unmask.Proofs.Module.Frame
import Unmask.Proofs.Module.Removal

/-!
# Resolution under edits

A reference resolves to the first method that defines it, among the types of the module in their
order and then among the reference modules. Editing bodies changes no name, and taking out types
keeps the names of those that stay, so that the definitions left are the old ones in the old order:
`Edits.resolutions`. A reference keeps its definition for as long as the type that declares it is
there, and one without a definition gets none: `resolution_stable`.
-/

namespace Unmask.Module

variable {m m' m'' : Module} {r : MemberRef} {gone more : List Token}

/-! ## Definitions -/

/-- The method `d` of the type `ty` is what the reference describes. -/
structure Defines (m : Module) (r : MemberRef) (ty : TypeDef) (d : MethodDef) : Prop where
  className : m.fullName ty = r.className
  name : d.name = r.name
  signature : r.signature = .method d.signature

/-- The first definition of a reference: no type before `ty` has one, and in `ty` no method before
`d` is one. -/
structure FirstDefinition (m : Module) (r : MemberRef) (ty : TypeDef) (d : MethodDef) : Prop where
  defines : m.Defines r ty d
  types : ∃ before after, m.types = before ++ ty :: after ∧
    ∀ other ∈ before, ∀ e ∈ other.methods, ¬ m.Defines r other e
  methods : ∃ before after, ty.methods = before ++ d :: after ∧ ∀ e ∈ before, ¬ m.Defines r ty e

theorem methodSignature?_eq_some_iff {s : MethodSignature} :
    r.methodSignature? = some s ↔ r.signature = .method s := by
  unfold MemberRef.methodSignature?
  cases r.signature <;> simp

theorem defines_iff {s : MethodSignature} (hs : r.methodSignature? = some s) {ty : TypeDef}
    {d : MethodDef} :
    m.Defines r ty d ↔ m.fullName ty = r.className ∧ d.name = r.name ∧ d.signature = s := by
  rw [methodSignature?_eq_some_iff] at hs
  constructor
  · rintro ⟨hclass, hname, hsignature⟩
    exact ⟨hclass, hname, MemberSignature.method.inj (hsignature.symm.trans hs)⟩
  · rintro ⟨hclass, hname, rfl⟩
    exact ⟨hclass, hname, hs⟩

/-- The first definition that the search comes to. -/
theorem head?_definitions_iff {ty : TypeDef} {d : MethodDef} :
    (m.definitions r).head? = some (ty, d) ↔ m.FirstDefinition r ty d := by
  cases hs : r.methodSignature? with
  | none =>
    have hnot : ¬ m.FirstDefinition r ty d := by
      intro h
      rw [methodSignature?_eq_some_iff.2 h.defines.signature] at hs
      exact absurd hs (Option.some_ne_none _)
    simp [definitions, hs, hnot]
  | some s =>
    -- the search goes through all methods of all types and asks for the three properties
    let matching (x : TypeDef × MethodDef) : Bool :=
      m.fullName x.1 = r.className && (x.2.name = r.name && x.2.signature = s)
    have hmatching : ∀ ty d, matching (ty, d) ↔ m.Defines r ty d := by
      intro ty d
      simp [matching, defines_iff hs]
    have hsearch : (m.definitions r).head? =
        m.types.findSome? fun ty => (ty.methods.find? fun d => matching (ty, d)).map (ty, ·) := by
      rw [definitions_eq hs, methodsOfClass, ← filter_methods, List.filter_filter,
        List.head?_filter, List.find?_flatMap]
      congr 1
      funext ty
      rw [List.find?_map]
      congr 2
      funext d
      exact Bool.and_comm _ _
    simp only [hsearch, List.findSome?_eq_some_iff, Option.map_eq_some_iff, Option.map_eq_none_iff,
      List.find?_eq_some_iff_append, List.find?_eq_none, Prod.mk.injEq, hmatching,
      Bool.not_eq_true', ← Bool.not_eq_true]
    constructor
    · rintro ⟨before, ty, after, htypes, ⟨d, ⟨hdefines, hmethods⟩, rfl, rfl⟩, hnone⟩
      exact ⟨hdefines, ⟨before, after, htypes, hnone⟩, hmethods⟩
    · rintro ⟨hdefines, ⟨before, after, htypes, hnone⟩, hmethods⟩
      exact ⟨before, ty, after, htypes, ⟨d, ⟨hdefines, hmethods⟩, rfl, rfl⟩, hnone⟩

/-- The list of resolutions starts with that of the first definition. -/
theorem resolutions_eq_cons {ty : TypeDef} {d : MethodDef} (h : m.FirstDefinition r ty d) :
    ∃ later, m.resolutions r = (ty.token, m.resolvedAs (ty, d)) :: later := by
  obtain ⟨later, hlater⟩ := List.head?_eq_some_iff.1 (head?_definitions_iff.2 h)
  exact ⟨later.map fun x => (x.1.token, m.resolvedAs x), by rw [resolutions, hlater, List.map_cons]⟩

theorem resolutions_eq_nil_iff :
    m.resolutions r = [] ↔ ∀ ty d, ¬ m.FirstDefinition r ty d := by
  simp only [← head?_definitions_iff]
  rw [resolutions, List.map_eq_nil_iff]
  cases m.definitions r with
  | nil => simp
  | cons x rest => simpa using ⟨x.1, x.2, rfl⟩

/-! ## Edits -/

/-- One edit of a module, with the tokens of the types it takes out. -/
inductive Edit : Module → List Token → Module → Prop
  | replace {σ : Type} (choose : Chooser σ) (produce : Producer σ) (m : Module) (s : σ) :
      Edit m [] (m.replace choose produce s).module
  | patch {σ : Type} (patcher : Patcher σ) (m : Module) (s : σ) :
      Edit m [] (m.patch patcher s).module
  | remove {m m' : Module} {t : Token} {gone : List Token}
      (h : m.removeType t = .ok (gone, m')) : Edit m gone m'

/-- Any number of edits, with the tokens of all types that they take out. -/
inductive Edits : Module → List Token → Module → Prop
  | refl (m : Module) : Edits m [] m
  | tail {m m' m'' : Module} {gone more : List Token} (h : Edits m gone m')
      (hlast : Edit m' more m'') : Edits m (gone ++ more) m''

/-- Bodies do not matter to what a reference can resolve to. -/
theorem SameButBodies.resolutions (h : m.SameButBodies m') (r : MemberRef) :
    m'.resolutions r = m.resolutions r := by
  cases hs : r.methodSignature? with
  | none => simp [Module.resolutions, definitions, hs]
  | some s =>
    have hclass : List.Forall₂ (TypeDef.Framed fun _ _ => True)
        (m.types.filter fun ty => m.fullName ty = r.className)
        (m'.types.filter fun ty => m'.fullName ty = r.className) := by
      refine List.rel_filter (fun ty ty' hty => ?_) h.types
      show decide (m.fullName ty = r.className) = true ↔
        decide (m'.fullName ty' = r.className) = true
      rw [fullName, fullName, h.qualifiedName "/" hty]
    have hpairs : List.Forall₂
        (fun x x' => TypeDef.Framed (fun _ _ => True) x.1 x'.1 ∧
          MethodDef.Framed (fun _ _ => True) x.2 x'.2)
        (m.methodsOfClass r.className) (m'.methodsOfClass r.className) := by
      refine List.rel_flatMap hclass fun ty ty' hty => ?_
      rw [List.forall₂_map_left_iff, List.forall₂_map_right_iff]
      exact hty.methods.imp fun _ _ hd => ⟨hty, hd⟩
    rw [Module.resolutions, Module.resolutions, definitions_eq hs, definitions_eq hs]
    refine map_eq_of_forall₂ (List.rel_filter (fun x x' hx => ?_) hpairs) fun x x' hx => ?_
    · simp only [hx.2.name, hx.2.signature]
    · simp only [resolvedAs, fullName, h.qualifiedName "/" hx.1, hx.1.token, hx.2.token, hx.2.name,
        hx.2.isStatic, hx.2.isConstructor]

/-- An edit leaves the definitions whose types it leaves. -/
theorem Edit.resolutions (h : m.Edit gone m') (r : MemberRef) :
    m'.resolutions r = (m.resolutions r).filter fun x => x.1 ∉ gone := by
  cases h with
  | replace choose produce m s =>
    simpa using (SameButBodies.replace choose produce m s).resolutions r
  | patch patcher m s => simpa using (SameButBodies.patch patcher m s).resolutions r
  | remove h =>
    have hclosed := removeType_closed h
    obtain ⟨-, rfl⟩ := removeType_eq_ok h
    exact resolutions_reduce hclosed r

theorem Edits.resolutions (h : m.Edits gone m') (r : MemberRef) :
    m'.resolutions r = (m.resolutions r).filter fun x => x.1 ∉ gone := by
  induction h with
  | refl => simp
  | tail _ hlast ih =>
    rw [hlast.resolutions, ih, List.filter_filter]
    apply List.filter_congr
    intro x _
    simp [Bool.and_comm]

/-! ## Resolution -/

theorem resolveWith_eq_head? (references : List Module) (m : Module) (r : MemberRef) :
    resolveWith references m r = (((m :: references).flatMap fun c => c.resolutions r).map
      Prod.snd).head? := by
  rw [resolveWith_eq, List.map_flatMap]
  simp only [map_snd_resolutions]

theorem head?_resolutions_iff {target : ResolvedMethod} :
    ((m.resolutions r).map Prod.snd).head? = some target ↔
      ∃ ty d, m.FirstDefinition r ty d ∧ target = m.resolvedAs (ty, d) := by
  simp only [map_snd_resolutions, List.head?_map, Option.map_eq_some_iff, Prod.exists,
    head?_definitions_iff, eq_comm (a := target)]

/-- A reference resolves to the first definition in the first module that has one. -/
theorem resolveWith_eq_some_iff {references : List Module} {target : ResolvedMethod} :
    resolveWith references m r = some target ↔
      ∃ before c after, m :: references = before ++ c :: after ∧
        (∀ b ∈ before, ∀ ty d, ¬ b.FirstDefinition r ty d) ∧
        ∃ ty d, c.FirstDefinition r ty d ∧ target = c.resolvedAs (ty, d) := by
  have hnone : ∀ c : Module, ((c.resolutions r).map Prod.snd).head? = none ↔
      ∀ ty d, ¬ c.FirstDefinition r ty d := by
    intro c
    rw [List.head?_eq_none_iff, List.map_eq_nil_iff, resolutions_eq_nil_iff]
  rw [resolveWith_eq_head?, List.map_flatMap, List.head?_flatMap, List.findSome?_eq_some_iff]
  simp only [head?_resolutions_iff, hnone, and_comm]

/-- The definitions of a module that is added come after all others. -/
theorem resolveWith_append (references : List Module) (added : Module) :
    resolveWith (references ++ [added]) m r =
      (resolveWith references m r).or ((added.resolutions r).map Prod.snd).head? := by
  simp [resolveWith_eq_head?, Option.or_assoc]

/-- A reference that does not resolve in a module does not resolve after any edits of it, be they
changes of bodies or removals of types. One that resolves to a definition in the module resolves to
the same after them, unless the type that declares it was taken out, and one that resolves in a
reference module does so in any case. A reference module that is added changes no resolution; it
resolves only what did not resolve, and that to its first definition. Whatever a reference resolves
to is a definition in the module or a reference module, of the class, the name and the signature
asked for. -/
theorem resolution_stable (h : m.Edits gone m') (references : List Module) (r : MemberRef) :
    (resolveWith references m r = none → resolveWith references m' r = none) ∧
    (∀ ty d, m.FirstDefinition r ty d →
      resolveWith references m r = some (m.resolvedAs (ty, d)) ∧
      (ty.token ∉ gone → resolveWith references m' r = some (m.resolvedAs (ty, d)))) ∧
    ((∀ ty d, ¬ m.FirstDefinition r ty d) →
      resolveWith references m' r = resolveWith references m r) ∧
    (∀ added target, resolveWith references m r = some target →
      resolveWith (references ++ [added]) m r = some target) ∧
    (∀ added target, resolveWith references m r = none →
      (resolveWith (references ++ [added]) m r = some target ↔
        ∃ ty d, added.FirstDefinition r ty d ∧ target = added.resolvedAs (ty, d))) ∧
    ∀ target, resolveWith references m r = some target →
      ∃ c ∈ m :: references, ∃ ty d, c.FirstDefinition r ty d ∧ target = c.resolvedAs (ty, d) := by
  have hleft := h.resolutions r
  refine ⟨fun hnone => ?_, fun ty d hfirst => ?_, fun hnot => ?_, fun added target hsome => ?_,
    fun added target hnone => ?_, fun target hsome => ?_⟩
  · rw [resolveWith_eq_head?, List.head?_eq_none_iff, List.map_eq_nil_iff, List.flatMap_cons,
      List.append_eq_nil_iff] at hnone ⊢
    exact ⟨by rw [hleft, hnone.1, List.filter_nil], hnone.2⟩
  · obtain ⟨later, hlater⟩ := resolutions_eq_cons hfirst
    refine ⟨by rw [resolveWith_eq_head?, List.flatMap_cons, hlater]; rfl, fun hkept => ?_⟩
    rw [resolveWith_eq_head?, List.flatMap_cons, hleft, hlater,
      List.filter_cons_of_pos (by simpa using hkept)]
    rfl
  · have hnil : m.resolutions r = [] := resolutions_eq_nil_iff.2 hnot
    rw [resolveWith_eq_head?, resolveWith_eq_head?, List.flatMap_cons, List.flatMap_cons, hleft,
      hnil, List.filter_nil]
  · rw [resolveWith_append, hsome, Option.some_or]
  · simp only [resolveWith_append, hnone, Option.none_or, head?_resolutions_iff]
  · obtain ⟨before, c, after, hmodules, -, hfirst⟩ := resolveWith_eq_some_iff.1 hsome
    exact ⟨c, hmodules ▸ List.mem_append_right before List.mem_cons_self, hfirst⟩

/-- The method `Write` of a type. -/
def writeMethod (token : UInt32) (body : Array Instruction) : MethodDef :=
  ⟨⟨token⟩, "Write", 0x10, ⟨false, .void, []⟩, some body⟩

def innerType : TypeDef where
  token := ⟨0x02000002⟩
  name := "Inner"
  enclosing := some ⟨0x02000001⟩
  methods := [writeMethod 0x06000001 #[.nop]]

def programType (body : Array Instruction) : TypeDef where
  token := ⟨0x02000003⟩
  namespaceName := "App"
  name := "Program"
  methods := [writeMethod 0x06000002 body]

/-- A module with such a method in a type nested in another, and one in the program. -/
def writersModule : Module where
  types := [{ token := ⟨0x02000001⟩, name := "Outer" }, innerType,
    programType #[.call ⟨0x06000001⟩]]

def writerRef (className : String) : MemberRef :=
  ⟨⟨0x0A000001⟩, className, "Write", .method ⟨false, .void, []⟩⟩

/-- All instructions are blanked, then the outer type is taken out with the one nested in it. The
method of the program is found as before, the other one only where a reference module has it. -/
theorem resolution_stable_writers :
    let blank := writersModule.replace (fun _ _ s => (true, s)) (fun _ _ s => (.nop, s)) ()
    let left : Module := { types := [programType #[.nop]] }
    let program : ResolvedMethod := ⟨⟨0x06000002⟩, "App.Program::Write", true, false⟩
    let inner : ResolvedMethod := ⟨⟨0x06000001⟩, "Outer/Inner::Write", true, false⟩
    blank.module.removeType ⟨0x02000001⟩ = .ok ([⟨0x02000001⟩, ⟨0x02000002⟩], left) ∧
      resolveWith [] writersModule (writerRef "App.Program") = some program ∧
      resolveWith [] left (writerRef "App.Program") = some program ∧
      resolveWith [] left (writerRef "Outer/Inner") = none ∧
      resolveWith [writersModule] left (writerRef "Outer/Inner") = some inner := by
  intro blank left program inner
  have hremoved : blank.module.removeType ⟨0x02000001⟩ =
      .ok ([⟨0x02000001⟩, ⟨0x02000002⟩], left) := by decide
  have hedits : writersModule.Edits [⟨0x02000001⟩, ⟨0x02000002⟩] left :=
    ((Edits.refl writersModule).tail (.replace _ _ writersModule ())).tail (.remove hremoved)
  have hprogram : writersModule.FirstDefinition (writerRef "App.Program")
      (programType #[.call ⟨0x06000001⟩]) (writeMethod 0x06000002 #[.call ⟨0x06000001⟩]) :=
    head?_definitions_iff.1 (by decide)
  have hinner : writersModule.FirstDefinition (writerRef "Outer/Inner") innerType
      (writeMethod 0x06000001 #[.nop]) := head?_definitions_iff.1 (by decide)
  obtain ⟨-, hstable, -⟩ := resolution_stable hedits [] (writerRef "App.Program")
  obtain ⟨hbefore, hafter⟩ := hstable _ _ hprogram
  have hlost : resolveWith [] left (writerRef "Outer/Inner") = none := by decide
  obtain ⟨-, -, -, -, hadded, -⟩ := resolution_stable (.refl left) [] (writerRef "Outer/Inner")
  exact ⟨hremoved, hbefore, hafter (by decide), hlost,
    (hadded writersModule inner hlost).2 ⟨_, _, hinner, by decide⟩⟩

end Unmask.Module
