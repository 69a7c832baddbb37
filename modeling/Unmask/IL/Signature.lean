/-!
# Signatures

Types as they appear in signatures, and method signatures. Two signatures are the same when they
are equal as trees.
-/

namespace Unmask

inductive TypeSignature where
  | unknown | void | bool | char
  | i1 | u1 | i2 | u2 | i4 | u4 | i8 | u8 | r4 | r8
  | string | object | nativeInt | nativeUInt
  | cls (name : String)
  | valueType (name : String)
  | byRef (target : TypeSignature)
  | array (element : TypeSignature)
  | generic (base : TypeSignature) (args : List TypeSignature)
  | typeParam (index : UInt32)
  | methodParam (index : UInt32)
  deriving Repr, Inhabited

namespace TypeSignature

mutual

def same : TypeSignature → TypeSignature → Bool
  | .unknown, .unknown | .void, .void | .bool, .bool | .char, .char
  | .i1, .i1 | .u1, .u1 | .i2, .i2 | .u2, .u2 | .i4, .i4 | .u4, .u4 | .i8, .i8 | .u8, .u8
  | .r4, .r4 | .r8, .r8 | .string, .string | .object, .object
  | .nativeInt, .nativeInt | .nativeUInt, .nativeUInt => true
  | .cls a, .cls b => a = b
  | .valueType a, .valueType b => a = b
  | .byRef a, .byRef b => same a b
  | .array a, .array b => same a b
  | .generic a as, .generic b bs => same a b && sameAll as bs
  | .typeParam a, .typeParam b => a = b
  | .methodParam a, .methodParam b => a = b
  | _, _ => false

def sameAll : List TypeSignature → List TypeSignature → Bool
  | [], [] => true
  | a :: as, b :: bs => same a b && sameAll as bs
  | _, _ => false

end

mutual

theorem same_refl : (a : TypeSignature) → same a a = true
  | .byRef a | .array a => by simp [same, same_refl a]
  | .generic a as => by simp [same, same_refl a, sameAll_refl as]
  | .cls _ | .valueType _ | .typeParam _ | .methodParam _ => by simp [same]
  | .unknown | .void | .bool | .char | .i1 | .u1 | .i2 | .u2 | .i4 | .u4 | .i8 | .u8 | .r4 | .r8
  | .string | .object | .nativeInt | .nativeUInt => by simp [same]

theorem sameAll_refl : (as : List TypeSignature) → sameAll as as = true
  | [] => by simp [sameAll]
  | a :: as => by simp [sameAll, same_refl a, sameAll_refl as]

end

mutual

theorem eq_of_same : (a b : TypeSignature) → same a b = true → a = b
  | .byRef a, b, h => by
    cases b <;> simp_all [same]
    exact eq_of_same a _ h
  | .array a, b, h => by
    cases b <;> simp_all [same]
    exact eq_of_same a _ h
  | .generic a as, b, h => by
    cases b <;> simp_all [same]
    exact ⟨eq_of_same a _ h.1, eq_of_sameAll as _ h.2⟩
  | .cls _, b, h | .valueType _, b, h | .typeParam _, b, h | .methodParam _, b, h => by
    cases b <;> simp_all [same]
  | .unknown, b, h | .void, b, h | .bool, b, h | .char, b, h | .i1, b, h | .u1, b, h
  | .i2, b, h | .u2, b, h | .i4, b, h | .u4, b, h | .i8, b, h | .u8, b, h | .r4, b, h
  | .r8, b, h | .string, b, h | .object, b, h | .nativeInt, b, h | .nativeUInt, b, h => by
    cases b <;> simp_all [same]

theorem eq_of_sameAll : (as bs : List TypeSignature) → sameAll as bs = true → as = bs
  | [], bs, h => by cases bs <;> simp_all [sameAll]
  | a :: as, bs, h => by
    cases bs <;> simp_all [sameAll]
    exact ⟨eq_of_same a _ h.1, eq_of_sameAll as _ h.2⟩

end

theorem same_iff_eq {a b : TypeSignature} : same a b = true ↔ a = b :=
  ⟨eq_of_same a b, fun h => h ▸ same_refl a⟩

instance : DecidableEq TypeSignature := fun _ _ => decidable_of_iff _ same_iff_eq

mutual

def display : TypeSignature → String
  | .unknown => "?"
  | .void => "void"
  | .bool => "bool"
  | .char => "char"
  | .i1 => "int8"
  | .u1 => "uint8"
  | .i2 => "int16"
  | .u2 => "uint16"
  | .i4 => "int32"
  | .u4 => "uint32"
  | .i8 => "int64"
  | .u8 => "uint64"
  | .r4 => "float32"
  | .r8 => "float64"
  | .string => "string"
  | .object => "object"
  | .nativeInt => "native int"
  | .nativeUInt => "native uint"
  | .cls name => "class " ++ name
  | .valueType name => "valuetype " ++ name
  | .byRef t => display t ++ "&"
  | .array t => display t ++ "[]"
  | .generic base args => display base ++ "<" ++ ", ".intercalate (displayAll args) ++ ">"
  | .typeParam n => "!" ++ toString n.toNat
  | .methodParam n => "!!" ++ toString n.toNat

def displayAll : List TypeSignature → List String
  | [] => []
  | t :: rest => display t :: displayAll rest

end

def isVoid (t : TypeSignature) : Bool := t = .void

end TypeSignature

structure MethodSignature where
  hasThis : Bool
  returnType : TypeSignature
  params : List TypeSignature
  deriving DecidableEq, Repr, Inhabited

namespace MethodSignature

/-- The parameter list; the return type is written elsewhere. -/
def display (s : MethodSignature) : String :=
  "(" ++ ", ".intercalate (s.params.map TypeSignature.display) ++ ")"

/-- Whether the method takes one `param` and returns a `ret`, static or not. -/
def isUnary (s : MethodSignature) (ret param : TypeSignature) : Bool :=
  s.returnType = ret && s.params = [param]

end MethodSignature

end Unmask
