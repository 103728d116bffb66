import Injector.Key
/-!
Provider bindings: a provider of something is bound to an accessor of that something. What the
provider provides is the argument of its type, told apart as the provider is. The methods that are
written for bindings make up a source, one after the other, with indented bodies.
-/
namespace Injector

/-- The methods written so far, and the number of spaces that a body is indented by. -/
structure MethodSource where
  indent : Nat
  text : Text

namespace MethodSource

def withIndent (indent : Nat) : MethodSource :=
  ⟨indent, []⟩

/-- A line of a body as it is written; a blank line is written empty. -/
def bodyLine (indent : Nat) (line : Text) : Text :=
  if Text.isBlank line then ['\n'] else List.replicate indent ' ' ++ line ++ ['\n']

/-- The text of one method, with an empty line after it. -/
def methodText (indent : Nat) (signature body : Text) : Text :=
  signature ++ " \x7b\n".toList ++ (Text.lines body).flatMap (bodyLine indent) ++
    "\x7d\n\n".toList

def write (signature body : Text) (source : MethodSource) : MethodSource :=
  { source with text := source.text ++ methodText source.indent signature body }

end MethodSource

/-- Why the type of a key is not the type of a provider. -/
inductive BindingFault where
  | notParameterized
  | wrongArity (found : Nat)
  deriving DecidableEq

def BindingFault.describe : BindingFault → Text
  | .notParameterized => "type is not parameterized".toList
  | .wrongArity found => "expected exactly one type argument, found ".toList ++ Text.decimal found

/-- The failure to bind a key as a provider. -/
structure MalformedBinding where
  key : Key
  fault : BindingFault

def MalformedBinding.message (failure : MalformedBinding) : Text :=
  "Malformed provider binding for ".toList ++ failure.key.describe ++ ": ".toList ++
    failure.fault.describe

/-- A provider and its target: the target's type is the one argument of the provider's. -/
structure ProviderBinding where
  provider : Key
  target : Key
  argument : ∃ raw, provider.type = .parameterized raw [target.type]
  sameQualifier : target.qualifier = provider.qualifier

/-- What a binding is written with: how a type is named, how a key gets its accessor, and how a
method is written. Names and source are kept in the states `ν` and `ω`. -/
structure Emitter (ε ν ω : Type) where
  sourceName : JavaType → Except ε Text
  accessor : Key → ν → Text × ν
  writeMethod : Text → Text → ω → Except ε Unit × ω

namespace ProviderBinding

/-- The binding of a provider, which must have exactly one argument. -/
def ofKey (key : Key) : Except MalformedBinding ProviderBinding :=
  match h : key.type with
  | .parameterized raw [type] => .ok ⟨key, key.withType type, ⟨raw, h⟩, rfl⟩
  | .parameterized _ arguments => .error ⟨key, .wrongArity arguments.length⟩
  | _ => .error ⟨key, .notParameterized⟩

/-- A provider needs its target, but only once it is asked for it. -/
def dependencies (binding : ProviderBinding) : List Dependency :=
  [.lazyRequired binding.provider binding.target]

/-- The body of the method that makes a provider, from the names of the provider's type, of the
target's type and of the target's accessor. -/
def creatorBody (providerName targetName accessor : Text) : Text :=
  "return new ".toList ++ providerName ++ "() \x7b\n  public ".toList ++ targetName ++
    " get() \x7b\n    return ".toList ++ accessor ++ "();\n  \x7d\n\x7d;".toList

/-- Writes the method that makes a provider. Both types are named first, so nothing is touched
if one of them has no name; the accessor of the target is asked for next. -/
def emit {ε ν ω : Type} (emitter : Emitter ε ν ω) (binding : ProviderBinding) (signature : Text)
    (names : ν) (source : ω) : Except ε Unit × ν × ω :=
  match emitter.sourceName binding.provider.type with
  | .error failure => (.error failure, names, source)
  | .ok providerName =>
      match emitter.sourceName binding.target.type with
      | .error failure => (.error failure, names, source)
      | .ok targetName =>
          let (accessor, names) := emitter.accessor binding.target names
          let (result, source) :=
            emitter.writeMethod signature (creatorBody providerName targetName accessor) source
          (result, names, source)

end ProviderBinding

end Injector
