import Injector.Text
/-!
Java types as an injector sees them: the type of a dependency, told apart down to its arguments.
Types are equal when they are built alike from equal names. They are ordered by kind, and then by
their parts in the order in which these are written; lists are ordered by their first difference,
and a list comes before its own extensions.
-/
namespace Injector

mutual

/-- A Java type, named by its binary names (a member class is written `Outer$Inner`). -/
inductive JavaType where
  | classType (name : Text)
  | primitive (name : Text)
  /-- A generic class with its arguments, of which there may be none. -/
  | parameterized (raw : Text) (arguments : List JavaType)
  | array (component : JavaType)
  | wildcard (bound : Bound)
  | typeVariable (name : Text)
  /-- A class declared in a body of code; an anonymous one has a name for diagnostics only. -/
  | localClass (name : Text) (anonymous : Bool)

/-- What a wildcard says about the types that it stands for. -/
inductive Bound where
  | unbounded
  | subtypesOf (type : JavaType)
  | supertypesOf (type : JavaType)

end

mutual

/-- The text of a type in diagnostics; every type has one. -/
def JavaType.describe : JavaType → Text
  | .classType name => name
  | .primitive name => name
  | .parameterized raw arguments =>
      raw ++ '<' :: Text.commaList (JavaType.describeAll arguments) ++ ['>']
  | .array component => component.describe ++ ['[', ']']
  | .wildcard bound => bound.describe
  | .typeVariable name => name
  | .localClass name anonymous =>
      (if anonymous then "<anonymous ".toList else "<local ".toList) ++ name ++ ['>']

def Bound.describe : Bound → Text
  | .unbounded => ['?']
  | .subtypesOf type => "? extends ".toList ++ type.describe
  | .supertypesOf type => "? super ".toList ++ type.describe

def JavaType.describeAll : List JavaType → List Text
  | [] => []
  | type :: rest => type.describe :: JavaType.describeAll rest

end

theorem Bound.describe_subtypesOf (type : JavaType) :
    (Bound.subtypesOf type).describe = "? extends ".toList ++ type.describe :=
  rfl

theorem Bound.describe_supertypesOf (type : JavaType) :
    (Bound.supertypesOf type).describe = "? super ".toList ++ type.describe :=
  rfl

namespace JavaType

/-- The arguments of a type; only a parameterized type has any. -/
def arguments : JavaType → List JavaType
  | .parameterized _ arguments => arguments
  | _ => []

def arity (type : JavaType) : Nat :=
  type.arguments.length

/-- Whether a type is written with an argument list, be it empty. -/
def isParameterized : JavaType → Bool
  | .parameterized _ _ => true
  | _ => false

/-- The name of the class that a type is made from, if it is made from one. -/
def rawName? : JavaType → Option Text
  | .classType name => some name
  | .parameterized raw _ => some raw
  | _ => none

end JavaType

section Equality

mutual

/-- Whether two types are built alike. -/
def JavaType.same : JavaType → JavaType → Bool
  | .classType a, .classType b => a == b
  | .primitive a, .primitive b => a == b
  | .parameterized a as, .parameterized b bs => a == b && JavaType.sameAll as bs
  | .array a, .array b => a.same b
  | .wildcard a, .wildcard b => a.same b
  | .typeVariable a, .typeVariable b => a == b
  | .localClass a x, .localClass b y => a == b && x == y
  | _, _ => false

def Bound.same : Bound → Bound → Bool
  | .unbounded, .unbounded => true
  | .subtypesOf a, .subtypesOf b => a.same b
  | .supertypesOf a, .supertypesOf b => a.same b
  | _, _ => false

def JavaType.sameAll : List JavaType → List JavaType → Bool
  | [], [] => true
  | a :: as, b :: bs => a.same b && JavaType.sameAll as bs
  | _, _ => false

end

mutual

theorem JavaType.same_iff (a b : JavaType) : a.same b = true ↔ a = b := by
  cases a <;> cases b <;>
    simp [JavaType.same, JavaType.same_iff, Bound.same_iff, JavaType.sameAll_iff]

theorem Bound.same_iff (a b : Bound) : a.same b = true ↔ a = b := by
  cases a <;> cases b <;> simp [Bound.same, JavaType.same_iff]

theorem JavaType.sameAll_iff (as bs : List JavaType) :
    JavaType.sameAll as bs = true ↔ as = bs := by
  cases as <;> cases bs <;> simp [JavaType.sameAll, JavaType.same_iff, JavaType.sameAll_iff]

end

instance : DecidableEq JavaType := fun a b =>
  decidable_of_iff (a.same b = true) (JavaType.same_iff a b)

instance : DecidableEq Bound := fun a b =>
  decidable_of_iff (a.same b = true) (Bound.same_iff a b)

end Equality

section Order

/-- The place of a type's kind among the kinds of types. -/
def JavaType.kind : JavaType → Nat
  | .classType _ => 0
  | .primitive _ => 1
  | .parameterized _ _ => 2
  | .array _ => 3
  | .wildcard _ => 4
  | .typeVariable _ => 5
  | .localClass _ _ => 6

def Bound.kind : Bound → Nat
  | .unbounded => 0
  | .subtypesOf _ => 1
  | .supertypesOf _ => 2

mutual

def JavaType.order : JavaType → JavaType → Ordering
  | .classType a, .classType b => compare a b
  | .primitive a, .primitive b => compare a b
  | .parameterized a as, .parameterized b bs => (compare a b).then (JavaType.orderAll as bs)
  | .array a, .array b => a.order b
  | .wildcard a, .wildcard b => a.order b
  | .typeVariable a, .typeVariable b => compare a b
  | .localClass a x, .localClass b y => (compare a b).then (compare x y)
  | a, b => compare a.kind b.kind

def Bound.order : Bound → Bound → Ordering
  | .subtypesOf a, .subtypesOf b => a.order b
  | .supertypesOf a, .supertypesOf b => a.order b
  | a, b => compare a.kind b.kind

def JavaType.orderAll : List JavaType → List JavaType → Ordering
  | [], [] => .eq
  | [], _ :: _ => .lt
  | _ :: _, [] => .gt
  | a :: as, b :: bs => (a.order b).then (JavaType.orderAll as bs)

end

instance : Ord JavaType := ⟨JavaType.order⟩

instance : Ord Bound := ⟨Bound.order⟩

end Order

end Injector
