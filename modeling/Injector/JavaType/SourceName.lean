import Injector.JavaType
/-!
Source names: the text that names a type in generated code.
A class is named by its canonical name. A wildcard may stand as an argument only, and a type
that generated code cannot see has no source name.
-/
namespace Injector

/-- Why a type has no source name. -/
inductive Unnameable where
  /-- A wildcard that is not an argument. -/
  | wildcard
  | typeVariable
  | localClass
  | anonymousClass
  deriving DecidableEq

/-- The cause as the end of a message. -/
def Unnameable.describe : Unnameable → Text
  | .wildcard => "wildcard types cannot be named".toList
  | .typeVariable => "type variables are not in scope in generated code".toList
  | .localClass => "local classes cannot be named".toList
  | .anonymousClass => "anonymous classes cannot be named".toList

/-- The failure to name a type: the type that was asked for, and what stands in the way. -/
structure UnnameableType where
  type : JavaType
  cause : Unnameable

def UnnameableType.message (failure : UnnameableType) : Text :=
  "No source name for type ".toList ++ failure.type.describe ++ ": ".toList ++
    failure.cause.describe

namespace JavaType

/-- The canonical name of a class: member classes are reached by a dot. -/
def canonical (name : Text) : Text :=
  name.map fun c => if c = '$' then '.' else c

/-- A raw name followed by its arguments; without arguments nothing follows. -/
def applied (raw : Text) : List Text → Text
  | [] => canonical raw
  | first :: rest => canonical raw ++ '<' :: Text.commaList (first :: rest) ++ ['>']

end JavaType

mutual

/-- The source text of a type, which stands as an argument or not. -/
def JavaType.sourceText (asArgument : Bool) : JavaType → Except Unnameable Text
  | .classType name => .ok (JavaType.canonical name)
  | .primitive name => .ok name
  | .parameterized raw arguments => (JavaType.argumentTexts arguments).map (JavaType.applied raw)
  | .array component => (component.sourceText false).map (· ++ ['[', ']'])
  | .wildcard bound => if asArgument then bound.sourceText else .error .wildcard
  | .typeVariable _ => .error .typeVariable
  | .localClass _ anonymous => .error (if anonymous then .anonymousClass else .localClass)

def Bound.sourceText : Bound → Except Unnameable Text
  | .unbounded => .ok ['?']
  | .subtypesOf type => (type.sourceText false).map ("? extends ".toList ++ ·)
  | .supertypesOf type => (type.sourceText false).map ("? super ".toList ++ ·)

/-- The source texts of arguments; the first argument without one decides the failure. -/
def JavaType.argumentTexts : List JavaType → Except Unnameable (List Text)
  | [] => .ok []
  | type :: rest =>
      match type.sourceText true with
      | .error cause => .error cause
      | .ok text => (JavaType.argumentTexts rest).map (text :: ·)

end

def JavaType.sourceName (type : JavaType) : Except UnnameableType Text :=
  (type.sourceText false).mapError (⟨type, ·⟩)

end Injector
