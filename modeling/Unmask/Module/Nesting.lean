import Unmask.Module.Basic

/-!
# Nesting

Three walks along the enclosing relation: up the chain of enclosing types for the name of a type,
up the same chain for its depth, and down for everything nested in a type. The relation may have
circles and dangling ends; each walk is bounded by the number of types.
-/

namespace Unmask.Module

/-- The type a nested type stands in. -/
def parent? (m : Module) (ty : TypeDef) : Option TypeDef := ty.enclosing.bind m.typeDef?

/-- `ty` and the types around it, innermost first, up to the first token already in `seen`. -/
def chainFrom (m : Module) : Nat → List Token → TypeDef → List TypeDef
  | 0, _, ty => [ty]
  | fuel + 1, seen, ty =>
    match m.parent? ty with
    | none => [ty]
    | some parent =>
      if parent.token ∈ seen then [ty]
      else ty :: m.chainFrom fuel (parent.token :: seen) parent

/-- `ty` and the types around it, innermost first. No token stands twice in the chain, so no more
than all types can follow `ty`. -/
def enclosingChain (m : Module) (ty : TypeDef) : List TypeDef :=
  m.chainFrom m.types.length [ty.token] ty

/-- The namespace of the outermost type, a dot if there is one, and the names of the chain from the
outermost type inwards. -/
def qualifiedName (m : Module) (separator : String) (ty : TypeDef) : String :=
  let chain := m.enclosingChain ty
  let outer := (chain.getLast?.map TypeDef.namespaceName).getD ""
  (if outer.isEmpty then "" else outer ++ ".") ++
    separator.intercalate (chain.reverse.map TypeDef.name)

/-- `Namespace.Outer/Inner`, the name that references use. -/
def fullName (m : Module) (ty : TypeDef) : String := m.qualifiedName "/" ty

/-- `Namespace.Outer+Inner`, the name that a running host knows. -/
def reflectionName (m : Module) (ty : TypeDef) : String := m.qualifiedName "+" ty

/-- Counts steps up the enclosing relation, at most as many as there is fuel. -/
def depthFrom (m : Module) : Nat → TypeDef → Nat
  | 0, _ => 0
  | fuel + 1, ty =>
    match m.parent? ty with
    | none => 0
    | some parent => m.depthFrom fuel parent + 1

/-- The number of types around `ty`, cut off at the number of types. -/
def nestingDepth (m : Module) (ty : TypeDef) : Nat := m.depthFrom m.types.length ty

/-- Adds the types nested directly in `parent` to `found`, in module order, each token once. -/
def addNested (types : List TypeDef) (parent : Token) (found : List Token) : List Token :=
  types.foldl (fun found ty =>
    if ty.enclosing = some parent ∧ ty.token ∉ found then found ++ [ty.token] else found) found

/-- Visits the tokens of `found` from position `i` on, adding what is nested in each. -/
def closeNested (types : List TypeDef) : Nat → Nat → List Token → List Token
  | 0, _, found => found
  | fuel + 1, i, found =>
    match found[i]? with
    | none => found
    | some parent => closeNested types fuel (i + 1) (addNested types parent found)

/-- `t` followed by the tokens of all types nested in it at any depth, breadth first. Each visit
takes a new token, so one more than the number of types is enough. -/
def typeAndNested (m : Module) (t : Token) : List Token :=
  closeNested m.types (m.types.length + 1) 0 [t]

/-- Takes out the type `t` with all that is nested in it, and returns their tokens. -/
def removeType (m : Module) (t : Token) : Except Error (List Token × Module) :=
  match m.typeDef? t with
  | none => .error (.tokenNotFound t)
  | some _ =>
    let doomed := m.typeAndNested t
    .ok (doomed, { m with types := m.types.filter fun ty => ty.token ∉ doomed })

/-- A method or member reference for a reader: return type, owner, name and parameters. -/
def displayName (m : Module) (t : Token) : String :=
  if t.isMethodDef then
    match m.method? t, m.declaringType? t with
    | some d, some ty =>
      d.signature.returnType.display ++ " " ++ m.fullName ty ++ "::" ++ d.name ++
        d.signature.display
    | _, _ => t.display
  else
    match m.memberRef? t with
    | none => t.display
    | some r =>
      match r.signature with
      | .method s =>
        s.returnType.display ++ " " ++ r.className ++ "::" ++ r.name ++ s.display
      | .field type => type.display ++ " " ++ r.className ++ "::" ++ r.name

end Unmask.Module
