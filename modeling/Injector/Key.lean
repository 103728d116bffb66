import Injector.AnnotationUse
import Injector.JavaType
/-!
Keys and dependencies. A key is a type, and a qualifier that tells dependencies of one type apart.
A dependency says that what one key stands for needs what another key stands for.
-/
namespace Injector

/-- What tells dependencies of one type apart. -/
inductive Qualifier where
  | unqualified
  | annotated (use : AnnotationUse)
  | marked (annotationType : Text)
  deriving DecidableEq

namespace Qualifier

/-- The text of a qualifier in diagnostics; no qualifier, no text. -/
def describe : Qualifier → Text
  | .unqualified => []
  | .annotated use => use.describe
  | .marked annotationType => '@' :: annotationType

def annotationType? : Qualifier → Option Text
  | .unqualified => none
  | .annotated use => some use.annotationType
  | .marked annotationType => some annotationType

def kind : Qualifier → Nat
  | .unqualified => 0
  | .annotated _ => 1
  | .marked _ => 2

/-- Which of two qualifiers comes first: by kind, and then by what they hold. -/
def order : Qualifier → Qualifier → Ordering
  | .annotated a, .annotated b => compare a b
  | .marked a, .marked b => compare a b
  | a, b => compare a.kind b.kind

instance : Ord Qualifier := ⟨order⟩

end Qualifier

/-- What a dependency is asked for by. -/
structure Key where
  type : JavaType
  qualifier : Qualifier
  deriving DecidableEq

namespace Key

def ofType (type : JavaType) : Key :=
  ⟨type, .unqualified⟩

def annotatedWith (type : JavaType) (use : AnnotationUse) : Key :=
  ⟨type, .annotated use⟩

theorem annotatedWith_inj {type : JavaType} {use other : AnnotationUse} :
    annotatedWith type use = annotatedWith type other ↔ use = other := by
  rw [annotatedWith, annotatedWith, mk.injEq, Qualifier.annotated.injEq, eq_self, true_and]

def markedWith (type : JavaType) (annotationType : Text) : Key :=
  ⟨type, .marked annotationType⟩

/-- The key of another type with the qualifier of a key. -/
def withType (key : Key) (type : JavaType) : Key :=
  { key with type }

def describe (key : Key) : Text :=
  match key.qualifier with
  | .unqualified => "Key<".toList ++ key.type.describe ++ ['>']
  | qualifier =>
      "Key<".toList ++ key.type.describe ++ ", ".toList ++ qualifier.describe ++ ['>']

instance : Ord Key :=
  ⟨fun a b => (compare a.type b.type).then (compare a.qualifier b.qualifier)⟩

end Key

/-- A need of one key for another. -/
structure Dependency where
  source : Key
  target : Key
  /-- The source can do without the target. -/
  optional : Bool
  /-- The target is made when the source asks for it, not before the source is made. -/
  lazy : Bool
  deriving DecidableEq

namespace Dependency

/-- A dependency that must be met, but not before the source is made. -/
def lazyRequired (source target : Key) : Dependency :=
  ⟨source, target, false, true⟩

def describeFlags (optional lazy : Bool) : Text :=
  match optional, lazy with
  | true, true => " [optional, lazy]".toList
  | true, false => " [optional]".toList
  | false, true => " [lazy]".toList
  | false, false => []

def describe (dependency : Dependency) : Text :=
  dependency.source.describe ++ " -> ".toList ++ dependency.target.describe ++
    describeFlags dependency.optional dependency.lazy

instance : Ord Dependency :=
  ⟨fun a b => (compare a.source b.source).then <| (compare a.target b.target).then <|
    (compare a.optional b.optional).then (compare a.lazy b.lazy)⟩

end Dependency

end Injector
