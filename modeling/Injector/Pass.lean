import Injector.DependencyGraph
import Injector.JavaType.SourceName
import Injector.Settings
/-!
A pass of the generator: names, source text and the graph of dependencies grow together, step by
step, under settings that stay the same. Whatever goes wrong on the way is an error with one message
for each cause.
-/
namespace Injector

/-- What is wrong with the keys and types that a generator is asked about. -/
inductive Refusal where
  | malformed (failure : MalformedBinding)
  | unnameable (failure : UnnameableType)

def Refusal.message : Refusal → Text
  | .malformed failure => failure.message
  | .unnameable failure => failure.message

/-- What is wrong when source cannot be generated. -/
inductive GenerationError where
  | refused (refusal : Refusal)
  | settings (fault : SettingsFault)
  | unwritable

def GenerationError.message : GenerationError → Text
  | .refused refusal => refusal.message
  | .settings fault => "Configuration error: ".toList ++ fault.describe
  | .unwritable => "Format error: an error occurred when formatting an argument".toList

def MalformedBinding.toError (failure : MalformedBinding) : GenerationError :=
  .refused (.malformed failure)

def UnnameableType.toError (failure : UnnameableType) : GenerationError :=
  .refused (.unnameable failure)

structure Pass where
  names : AccessorNames
  source : MethodSource
  graph : DependencyGraph

namespace Pass

/-- What stays the same during a pass: the settings, how types are named, and how methods are
written. -/
structure Frame where
  settings : Settings
  sourceName : JavaType → Except GenerationError Text
  writeMethod : Text → Text → MethodSource → Except GenerationError Unit × MethodSource

inductive Step where
  | name (key : Key)
  | write (signature body : Text)
  /-- Writes the method that makes a provider. -/
  | emit (key : Key) (signature : Text)
  /-- Binds a provider if its type counts as one, and writes the method that makes it. -/
  | request (key : Key) (signature : Text)
  | bind (key : Key)
  | depend (dependency : Dependency)
  | contains (key : Key)
  | dependenciesOf (key : Key)

/-- What a step that goes well answers. -/
inductive Outcome where
  | name (name : Text)
  | written
  | notProvider
  | added
  | truth (value : Bool)
  | dependencies (list : List Dependency)

/-- Types are named for source, and a type without a source name is refused. -/
def strictNames (type : JavaType) : Except GenerationError Text :=
  type.sourceName.mapError UnnameableType.toError

/-- Types are named as in diagnostics, so every type has a name. -/
def lenientNames (type : JavaType) : Except GenerationError Text :=
  .ok type.describe

def append (signature body : Text) (source : MethodSource) :
    Except GenerationError Unit × MethodSource :=
  (.ok (), source.write signature body)

def refuse (_ _ : Text) (source : MethodSource) : Except GenerationError Unit × MethodSource :=
  (.error .unwritable, source)

def start (names : AccessorNames) (source : MethodSource) : Pass :=
  ⟨names, source, .empty⟩

def emit (frame : Frame) (binding : ProviderBinding) (signature : Text) (pass : Pass) :
    Except GenerationError Outcome × Pass :=
  let emitter := ⟨frame.sourceName, AccessorNames.request, frame.writeMethod⟩
  let (result, names, source) := binding.emit emitter signature pass.names pass.source
  (result.map fun _ => .written, { pass with names, source })

def add (binding : ProviderBinding) (pass : Pass) : Pass :=
  { pass with graph := pass.graph.addDependencies binding.dependencies }

/-- The answer to a step, and the pass after it. -/
def step (frame : Frame) (pass : Pass) : Step → Except GenerationError Outcome × Pass
  | .name key =>
      let (name, names) := pass.names.request key
      (.ok (.name name), { pass with names })
  | .write signature body =>
      let (result, source) := frame.writeMethod signature body pass.source
      (result.map fun _ => .written, { pass with source })
  | .emit key signature =>
      match ProviderBinding.ofKey key with
      | .error failure => (.error failure.toError, pass)
      | .ok binding => pass.emit frame binding signature
  | .request key signature =>
      match frame.settings.implicitBinding? key with
      | none => (.ok .notProvider, pass)
      | some (.error failure) => (.error failure.toError, pass)
      | some (.ok binding) => (pass.add binding).emit frame binding signature
  | .bind key =>
      match ProviderBinding.ofKey key with
      | .error failure => (.error failure.toError, pass)
      | .ok binding => (.ok .added, pass.add binding)
  | .depend dependency =>
      (.ok .added, { pass with graph := pass.graph.addDependency dependency })
  | .contains key => (.ok (.truth (pass.graph.contains key)), pass)
  | .dependenciesOf key => (.ok (.dependencies (pass.graph.dependenciesOf key)), pass)

/-- The source text that came after an earlier state of the pass. -/
def appendedSince (before after : Pass) : Text :=
  after.source.text.drop before.source.text.length

end Pass

end Injector
