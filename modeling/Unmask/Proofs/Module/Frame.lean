import Unmask.Proofs.Module.Reduce

/-!
# Frames

An edit frames a module if it leaves alone all but the bodies of methods and the presence of types:
the types left are a part of the old ones in the old order, and they and their methods are what they
were but for bodies that a given relation connects. Frames over a transitive relation compose, so
what each step of a run keeps is kept by the run.
-/

namespace Unmask

/-! ## Relations between optional values and between lists -/

section Relations

variable {α : Type} {P Q : α → α → Prop}

theorem optionRel_mono (hPQ : ∀ a b, P a b → Q a b) {a b : Option α} (h : Option.Rel P a b) :
    Option.Rel Q a b := by
  cases h with
  | none => exact .none
  | some hab => exact .some (hPQ _ _ hab)

theorem optionRel_trans (htrans : ∀ a b c, P a b → P b c → P a c) {a b c : Option α}
    (hab : Option.Rel P a b) (hbc : Option.Rel P b c) : Option.Rel P a c := by
  cases hab with
  | none =>
    cases hbc
    exact .none
  | some hab =>
    cases hbc with
    | some hbc => exact .some (htrans _ _ _ hab hbc)

theorem forall₂_trans (htrans : ∀ a b c, P a b → P b c → P a c) {l l' l'' : List α}
    (h : List.Forall₂ P l l') (h' : List.Forall₂ P l' l'') : List.Forall₂ P l l'' := by
  induction h generalizing l'' with
  | nil =>
    cases h'
    exact .nil
  | cons hhead _ ih =>
    cases h' with
    | cons hhead' hrest' => exact .cons (htrans _ _ _ hhead hhead') (ih hrest')

theorem exists_right_of_forall₂ {l l' : List α} (h : List.Forall₂ P l l') {a : α} (ha : a ∈ l) :
    ∃ b ∈ l', P a b := by
  induction h with
  | nil => exact absurd ha List.not_mem_nil
  | @cons x y _ _ hxy _ ih =>
    rcases List.mem_cons.1 ha with rfl | hrest
    · exact ⟨y, List.mem_cons_self, hxy⟩
    · obtain ⟨b, hb, hab⟩ := ih hrest
      exact ⟨b, List.mem_cons_of_mem y hb, hab⟩

theorem exists_left_of_forall₂ {l l' : List α} (h : List.Forall₂ P l l') {b : α} (hb : b ∈ l') :
    ∃ a ∈ l, P a b :=
  exists_right_of_forall₂ (List.Forall₂.flip (R := flip P) h) hb

/-- What agrees on related items agrees on related lists. -/
theorem map_eq_of_forall₂ {β : Type} {f g : α → β} {l l' : List α} (h : List.Forall₂ P l l')
    (hfg : ∀ a b, P a b → g b = f a) : l'.map g = l.map f := by
  induction h with
  | nil => rfl
  | cons hab _ ih => rw [List.map_cons, List.map_cons, hfg _ _ hab, ih]

/-- A part of the right list of a relation is related to a part of the left one. -/
theorem sublist_of_forall₂ {l l' k' : List α} (h : List.Forall₂ P l l') (hk' : k'.Sublist l') :
    ∃ k, k.Sublist l ∧ List.Forall₂ P k k' := by
  induction hk' generalizing l with
  | slnil => exact ⟨[], List.nil_sublist l, .nil⟩
  | cons b _ ih =>
    cases h with
    | cons _ hrest =>
      obtain ⟨k, hk, hP⟩ := ih hrest
      exact ⟨k, hk.cons _, hP⟩
  | cons_cons b _ ih =>
    cases h with
    | cons hhead hrest =>
      obtain ⟨k, hk, hP⟩ := ih hrest
      exact ⟨_ :: k, hk.cons_cons _, .cons hhead hP⟩

end Relations

/-! ## Methods and types -/

variable {R S : Array Instruction → Array Instruction → Prop}

namespace MethodDef.Framed

variable {d d' d'' : MethodDef}

theorem refl (hrefl : ∀ b, R b b) (d : MethodDef) : MethodDef.Framed R d d := by
  refine ⟨rfl, rfl, rfl, rfl, ?_⟩
  cases d.body with
  | none => exact .none
  | some body => exact .some (hrefl body)

theorem mono (hRS : ∀ a b, R a b → S a b) (h : MethodDef.Framed R d d') :
    MethodDef.Framed S d d' :=
  { h with body := optionRel_mono hRS h.body }

theorem trans (htrans : ∀ a b c, R a b → R b c → R a c) (h : MethodDef.Framed R d d')
    (h' : MethodDef.Framed R d' d'') : MethodDef.Framed R d d'' where
  token := h'.token.trans h.token
  name := h'.name.trans h.name
  flags := h'.flags.trans h.flags
  signature := h'.signature.trans h.signature
  body := optionRel_trans htrans h.body h'.body

theorem isStatic (h : MethodDef.Framed R d d') : d'.isStatic = d.isStatic := by
  simp only [MethodDef.isStatic, h.flags]

theorem isConstructor (h : MethodDef.Framed R d d') : d'.isConstructor = d.isConstructor := by
  simp only [MethodDef.isConstructor, MethodDef.isStaticConstructor, h.name]

/-- A method without a body has no slots. -/
theorem code (hempty : R #[] #[]) (h : MethodDef.Framed R d d') : R d.code d'.code := by
  have hbody := h.body
  unfold MethodDef.code
  generalize d.body = body at hbody
  generalize d'.body = body' at hbody
  cases hbody with
  | none => exact hempty
  | some hrelated => exact hrelated

end MethodDef.Framed

namespace TypeDef.Framed

variable {ty ty' ty'' : TypeDef}

theorem refl (hrefl : ∀ b, R b b) (ty : TypeDef) : TypeDef.Framed R ty ty :=
  ⟨rfl, rfl, rfl, rfl, rfl, rfl, List.forall₂_same.2 fun d _ => MethodDef.Framed.refl hrefl d⟩

theorem mono (hRS : ∀ a b, R a b → S a b) (h : TypeDef.Framed R ty ty') : TypeDef.Framed S ty ty' :=
  { h with methods := h.methods.imp fun _ _ hd => hd.mono hRS }

theorem trans (htrans : ∀ a b c, R a b → R b c → R a c) (h : TypeDef.Framed R ty ty')
    (h' : TypeDef.Framed R ty' ty'') : TypeDef.Framed R ty ty'' where
  token := h'.token.trans h.token
  namespaceName := h'.namespaceName.trans h.namespaceName
  name := h'.name.trans h.name
  enclosing := h'.enclosing.trans h.enclosing
  flags := h'.flags.trans h.flags
  isDelegate := h'.isDelegate.trans h.isDelegate
  methods := forall₂_trans (fun _ _ _ hd hd' => hd.trans htrans hd') h.methods h'.methods

theorem mapCode {f : Instruction → Instruction} (h : ∀ b, R b (b.map f)) (ty : TypeDef) :
    TypeDef.Framed R ty (ty.mapCode f) := by
  refine ⟨rfl, rfl, rfl, rfl, rfl, rfl, ?_⟩
  rw [mapCode_methods, List.forall₂_map_right_iff]
  refine List.forall₂_same.2 fun d _ => ⟨rfl, rfl, rfl, rfl, ?_⟩
  show Option.Rel R d.body (d.body.map (Array.map f))
  cases d.body with
  | none => exact .none
  | some body => exact .some (h body)

end TypeDef.Framed

section Types

variable {tys tys' : List TypeDef}

theorem forall₂_methods (h : List.Forall₂ (TypeDef.Framed R) tys tys') :
    List.Forall₂ (MethodDef.Framed R) (tys.flatMap TypeDef.methods)
      (tys'.flatMap TypeDef.methods) :=
  List.rel_flatMap h fun _ _ hty => hty.methods

/-- Types that differ in bodies only are the same if their methods are. -/
theorem types_eq_of_methods_eq (h : List.Forall₂ (TypeDef.Framed R) tys tys')
    (hmethods : tys'.flatMap TypeDef.methods = tys.flatMap TypeDef.methods) : tys' = tys := by
  induction h with
  | nil => rfl
  | @cons ty ty' rest rest' hty _ ih =>
    rw [List.flatMap_cons, List.flatMap_cons] at hmethods
    obtain ⟨hhead, htail⟩ := List.append_inj hmethods hty.methods.length_eq.symm
    obtain ⟨htoken, hnamespace, hname, henclosing, hflags, hdelegate, -⟩ := hty
    rw [ih htail]
    congr 1
    cases ty
    cases ty'
    simp_all

end Types

/-! ## Modules -/

namespace Module

/-- `m'` is `m` but for missing types and for bodies, which are related to those they replace. -/
structure Framed (R : Array Instruction → Array Instruction → Prop) (m m' : Module) : Prop where
  name : m'.name = m.name
  memberRefs : m'.memberRefs = m.memberRefs
  types : ∃ kept, kept.Sublist m.types ∧ List.Forall₂ (TypeDef.Framed R) kept m'.types

namespace Framed

variable {m m' m'' : Module}

theorem of_forall₂ (hname : m'.name = m.name) (hrefs : m'.memberRefs = m.memberRefs)
    (htypes : List.Forall₂ (TypeDef.Framed R) m.types m'.types) : m.Framed R m' :=
  ⟨hname, hrefs, m.types, .refl _, htypes⟩

theorem refl (hrefl : ∀ b, R b b) (m : Module) : m.Framed R m :=
  of_forall₂ rfl rfl (List.forall₂_same.2 fun ty _ => TypeDef.Framed.refl hrefl ty)

theorem mono (hRS : ∀ a b, R a b → S a b) (h : m.Framed R m') : m.Framed S m' := by
  obtain ⟨kept, hkept, htypes⟩ := h.types
  exact ⟨h.name, h.memberRefs, kept, hkept, htypes.imp fun _ _ hty => hty.mono hRS⟩

theorem trans (htrans : ∀ a b c, R a b → R b c → R a c) (h : m.Framed R m')
    (h' : m'.Framed R m'') : m.Framed R m'' := by
  obtain ⟨kept, hkept, htypes⟩ := h.types
  obtain ⟨kept', hkept', htypes'⟩ := h'.types
  obtain ⟨part, hpart, hrelated⟩ := sublist_of_forall₂ htypes hkept'
  exact ⟨h'.name.trans h.name, h'.memberRefs.trans h.memberRefs, part, hpart.trans hkept,
    forall₂_trans (fun _ _ _ hty hty' => hty.trans htrans hty') hrelated htypes'⟩

theorem reduce {f : Instruction → Instruction} (h : ∀ b, R b (b.map f)) (gone : List Token)
    (m : Module) : m.Framed R (m.reduce f gone) := by
  refine ⟨rfl, rfl, m.types.filter fun ty => ty.token ∉ gone, List.filter_sublist, ?_⟩
  rw [Module.reduce, List.forall₂_map_right_iff]
  exact List.forall₂_same.2 fun ty _ => TypeDef.Framed.mapCode h ty

/-- If a reduction of a module frames the module itself, it took out no type, and the bodies it
mapped are related to what they were. -/
theorem of_reduce {f : Instruction → Instruction} {gone : List Token} (hempty : R #[] #[])
    (h : (m.reduce f gone).Framed R m) :
    m.reduce f gone = m.mapCode f ∧ ∀ d ∈ m.methods, R (d.code.map f) d.code := by
  obtain ⟨kept, hkept, htypes⟩ := h.types
  have hlength := hkept.length_le
  rw [htypes.length_eq, Module.reduce, List.length_map] at hlength
  have hall : m.types.filter (fun ty => ty.token ∉ gone) = m.types :=
    List.filter_sublist.eq_of_length_le hlength
  have hreduce : m.reduce f gone = m.mapCode f := by
    rw [Module.reduce, hall]
    rfl
  refine ⟨hreduce, fun d hd => ?_⟩
  rw [hreduce] at hkept
  have hsame : kept = m.types.map (TypeDef.mapCode f) :=
    hkept.eq_of_length (by rw [htypes.length_eq]; exact (List.length_map _).symm)
  rw [hsame, List.forall₂_map_left_iff, List.forall₂_same] at htypes
  obtain ⟨ty, hty, hmem⟩ := List.mem_flatMap.1 hd
  have hmethods := (htypes ty hty).methods
  rw [TypeDef.mapCode_methods, List.forall₂_map_left_iff, List.forall₂_same] at hmethods
  have hcode := (hmethods d hmem).code hempty
  rwa [MethodDef.mapCode_code] at hcode

/-- What every question of a patcher keeps between the old body and the new one frames the patch. -/
theorem patch {σ : Type} (hrefl : ∀ b, R b b) (htrans : ∀ a b c, R a b → R b c → R a c)
    {patcher : Patcher σ} (h : ∀ d scan i, R scan.body (patchSlot patcher d scan i).body)
    (m : Module) (s : σ) : m.Framed R (m.patch patcher s).module :=
  of_forall₂ rfl rfl (scanModule_forall₂ hrefl htrans h m s)

end Framed

/-- `m'` is `m` but for the bodies of its methods. -/
structure SameButBodies (m m' : Module) : Prop where
  name : m'.name = m.name
  memberRefs : m'.memberRefs = m.memberRefs
  types : List.Forall₂ (TypeDef.Framed fun _ _ => True) m.types m'.types

namespace SameButBodies

variable {m m' m'' : Module}

theorem refl (m : Module) : m.SameButBodies m :=
  ⟨rfl, rfl, List.forall₂_same.2 fun ty _ => TypeDef.Framed.refl (fun _ => trivial) ty⟩

theorem trans (h : m.SameButBodies m') (h' : m'.SameButBodies m'') : m.SameButBodies m'' where
  name := h'.name.trans h.name
  memberRefs := h'.memberRefs.trans h.memberRefs
  types := forall₂_trans (fun _ _ _ hty hty' => hty.trans (fun _ _ _ _ _ => trivial) hty')
    h.types h'.types

theorem patch {σ : Type} (patcher : Patcher σ) (m : Module) (s : σ) :
    m.SameButBodies (m.patch patcher s).module :=
  ⟨rfl, rfl, scanModule_forall₂ (fun _ => trivial) (fun _ _ _ _ _ => trivial)
    (fun _ _ _ => trivial) m s⟩

theorem replace {σ : Type} (choose : Chooser σ) (produce : Producer σ) (m : Module) (s : σ) :
    m.SameButBodies (m.replace choose produce s).module :=
  ⟨rfl, rfl, scanModule_forall₂ (fun _ => trivial) (fun _ _ _ _ _ => trivial)
    (fun _ _ _ => trivial) m s⟩

theorem methods (h : m.SameButBodies m') :
    List.Forall₂ (MethodDef.Framed fun _ _ => True) m.methods m'.methods :=
  forall₂_methods h.types

theorem methodTokens_eq (h : m.SameButBodies m') :
    m'.methods.map MethodDef.token = m.methods.map MethodDef.token :=
  map_eq_of_forall₂ h.methods fun _ _ hframed => hframed.token

theorem methodSignature?_eq (h : m.SameButBodies m') (t : Token) :
    m'.methodSignature? t = m.methodSignature? t := by
  have hfind : (m'.methods.find? fun d => d.token = t).map MethodDef.signature =
      (m.methods.find? fun d => d.token = t).map MethodDef.signature := by
    have hmethods := h.methods
    generalize m.methods = ds at hmethods
    generalize m'.methods = ds' at hmethods
    induction hmethods with
    | nil => rfl
    | @cons d d' _ _ hframed _ ih =>
      by_cases ht : d.token = t
      · simp [hframed.token, hframed.signature, ht]
      · simpa [List.find?_cons, hframed.token, ht] using ih
  unfold methodSignature? method? memberRef?
  split
  · exact hfind
  · rw [h.memberRefs]

theorem eq_of_methods_eq (h : m.SameButBodies m') (hmethods : m'.methods = m.methods) :
    m' = m := by
  obtain ⟨hname, hrefs, htypes⟩ := h
  have hsame : m'.types = m.types := types_eq_of_methods_eq htypes hmethods
  cases m
  cases m'
  simp_all

/-! ### Names -/

section Names

variable {ty ty' : TypeDef}

theorem typeDef? (h : m.SameButBodies m') (t : Token) :
    Option.Rel (TypeDef.Framed fun _ _ => True) (m.typeDef? t) (m'.typeDef? t) := by
  have htypes := h.types
  unfold Module.typeDef?
  generalize m.types = tys at htypes
  generalize m'.types = tys' at htypes
  induction htypes with
  | nil => exact .none
  | @cons ty ty' _ _ hframed _ ih =>
    by_cases ht : ty.token = t
    · simpa [hframed.token, ht] using Option.Rel.some hframed
    · simpa [List.find?_cons, hframed.token, ht] using ih

theorem parent? (h : m.SameButBodies m') (hty : TypeDef.Framed (fun _ _ => True) ty ty') :
    Option.Rel (TypeDef.Framed fun _ _ => True) (m.parent? ty) (m'.parent? ty') := by
  unfold Module.parent?
  rw [hty.enclosing]
  cases ty.enclosing with
  | none => exact .none
  | some t => exact h.typeDef? t

theorem chainFrom (h : m.SameButBodies m') (fuel : Nat) (seen : List Token)
    (hty : TypeDef.Framed (fun _ _ => True) ty ty') :
    List.Forall₂ (TypeDef.Framed fun _ _ => True) (m.chainFrom fuel seen ty)
      (m'.chainFrom fuel seen ty') := by
  induction fuel generalizing seen ty ty' with
  | zero => exact .cons hty .nil
  | succ fuel ih =>
    have hparent := h.parent? hty
    unfold Module.chainFrom
    generalize m.parent? ty = parent at hparent
    generalize m'.parent? ty' = parent' at hparent
    cases hparent with
    | none => exact .cons hty .nil
    | @some up up' hup =>
      simp only [hup.token]
      by_cases hseen : up.token ∈ seen
      · simpa only [hseen, if_true] using .cons hty .nil
      · simpa only [hseen, if_false] using .cons hty (ih (up.token :: seen) hup)

/-- The bodies do not matter to a name. -/
theorem qualifiedName (h : m.SameButBodies m') (separator : String)
    (hty : TypeDef.Framed (fun _ _ => True) ty ty') :
    m'.qualifiedName separator ty' = m.qualifiedName separator ty := by
  have hchain : List.Forall₂ (TypeDef.Framed fun _ _ => True) (m.enclosingChain ty)
      (m'.enclosingChain ty') := by
    unfold enclosingChain
    rw [← h.types.length_eq, hty.token]
    exact h.chainFrom m.types.length [ty.token] hty
  have hnames : (m'.enclosingChain ty').map TypeDef.name = (m.enclosingChain ty).map TypeDef.name :=
    map_eq_of_forall₂ hchain fun _ _ hframed => hframed.name
  have hnamespaces : (m'.enclosingChain ty').map TypeDef.namespaceName =
      (m.enclosingChain ty).map TypeDef.namespaceName :=
    map_eq_of_forall₂ hchain fun _ _ hframed => hframed.namespaceName
  simp only [Module.qualifiedName, ← List.getLast?_map, List.map_reverse, hnames, hnamespaces]

end Names

end SameButBodies

end Module

end Unmask
