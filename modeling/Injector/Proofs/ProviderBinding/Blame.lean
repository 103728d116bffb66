import Injector.Pass
import Injector.Proofs.JavaType.Reading
import Injector.Proofs.ProviderBinding.Emission
import Injector.Proofs.ProviderBinding.Unwrapping
/-!
Which type a failed emission blames. A provider is named from its argument, where a wildcard may
stand, and then the argument is named by itself, where it may not. So the argument decides: it is
blamed itself if it is a wildcard that could stand where it is, and otherwise the provider is.
-/
namespace Injector

section Arguments

/-- A wildcard without a bound, or with one that has a source name by itself. -/
def JavaType.IsNameableWildcard (type : JavaType) : Prop :=
  type = .wildcard .unbounded ∨
    ∃ bound text, (type = .wildcard (.subtypesOf bound) ∨ type = .wildcard (.supertypesOf bound)) ∧
      bound.sourceName = .ok text

/-- The first part that stands in the way of a source name does so for a certain cause. -/
def FirstObstacle (parts : List Part) (cause : Unnameable) : Prop :=
  ∃ before part later, parts = before ++ part :: later ∧ part.obstacle? = some cause ∧
    ∀ earlier ∈ before, earlier.obstacle? = none

theorem JavaType.sourceText_eq_error_iff {type : JavaType} {isArgument : Bool}
    {cause : Unnameable} :
    type.sourceText isArgument = .error cause ↔
      FirstObstacle (⟨type, isArgument⟩ :: type.innerParts) cause := by
  rw [← cause?_eq_some_iff, type.cause?_sourceText isArgument, List.findSome?_eq_some_iff]
  rfl

theorem JavaType.sourceName_single_eq_ok_iff {raw : Text} {type : JavaType} {name : Text} :
    (parameterized raw [type]).sourceName = .ok name ↔
      ∃ text, type.sourceText true = .ok text ∧ applied raw [text] = name := by
  rw [sourceName_eq_ok_iff, sourceText, argumentTexts]
  cases type.sourceText true <;> simp [Except.map, argumentTexts]

theorem JavaType.sourceName_single_eq_error_iff {raw : Text} {type : JavaType}
    {failure : UnnameableType} :
    (parameterized raw [type]).sourceName = .error failure ↔
      failure.type = .parameterized raw [type] ∧ type.sourceText true = .error failure.cause := by
  rw [sourceName_eq_error_iff, sourceText, argumentTexts]
  cases type.sourceText true <;> simp [Except.map, argumentTexts]

/-- What can be named by itself is named alike as an argument. -/
theorem JavaType.sourceText_true_of_false {type : JavaType} {text : Text}
    (named : type.sourceText false = .ok text) : type.sourceText true = .ok text := by
  cases type with
  | wildcard bound => cases named
  | _ => exact named

theorem JavaType.isNameableWildcard_iff {type : JavaType} :
    type.IsNameableWildcard ↔
      ∃ bound text, type = .wildcard bound ∧ bound.sourceText = .ok text := by
  constructor
  · rintro (rfl | ⟨bound, text, rfl | rfl, named⟩)
    · exact ⟨_, _, rfl, rfl⟩
    · exact ⟨_, _, rfl, map_eq_ok_iff.mpr ⟨text, sourceName_eq_ok_iff.mp named, rfl⟩⟩
    · exact ⟨_, _, rfl, map_eq_ok_iff.mpr ⟨text, sourceName_eq_ok_iff.mp named, rfl⟩⟩
  · rintro ⟨bound, text, rfl, named⟩
    cases bound with
    | unbounded => exact .inl rfl
    | subtypesOf bound =>
        obtain ⟨inner, found, -⟩ := map_eq_ok_iff.mp named
        exact .inr ⟨bound, inner, .inl rfl, sourceName_eq_ok_iff.mpr found⟩
    | supertypesOf bound =>
        obtain ⟨inner, found, -⟩ := map_eq_ok_iff.mp named
        exact .inr ⟨bound, inner, .inr rfl, sourceName_eq_ok_iff.mpr found⟩

/-- Nothing but a wildcard can be named as an argument and not by itself. -/
theorem JavaType.argument_only_iff {type : JavaType} {cause : Unnameable} :
    (∃ text, type.sourceText true = .ok text) ∧ type.sourceText false = .error cause ↔
      type.IsNameableWildcard ∧ cause = .wildcard := by
  rw [isNameableWildcard_iff]
  constructor
  · rintro ⟨⟨text, named⟩, refused⟩
    cases type with
    | wildcard bound =>
        exact ⟨⟨bound, text, rfl, named⟩, (Except.error.inj refused).symm⟩
    | _ => exact absurd (named.symm.trans refused) (by simp)
  · rintro ⟨⟨bound, text, rfl, named⟩, rfl⟩
    exact ⟨⟨text, named⟩, rfl⟩

/-- A type can be named by itself, or it is a wildcard that can be named as an argument only, or
something in it stands in the way even as an argument. -/
theorem JavaType.argument_cases (type : JavaType) :
    (∃ text, type.sourceName = .ok text) ∨ type.IsNameableWildcard ∨
      ∃ cause, FirstObstacle (⟨type, true⟩ :: type.innerParts) cause := by
  simp only [sourceName_eq_ok_iff, ← sourceText_eq_error_iff]
  cases argument : type.sourceText true with
  | error cause => exact .inr (.inr ⟨cause, rfl⟩)
  | ok text =>
      cases alone : type.sourceText false with
      | error cause => exact .inr (.inl (argument_only_iff.mp ⟨⟨text, argument⟩, alone⟩).1)
      | ok other => exact .inl ⟨other, rfl⟩

theorem UnnameableType.toError_injective : Function.Injective UnnameableType.toError :=
  fun _ _ same => Refusal.unnameable.inj (GenerationError.refused.inj same)

end Arguments

namespace ProviderBinding

section Outcomes

variable {ν ω : Type} {accessor : Key → ν → Text × ν}
  {writeMethod : Text → Text → ω → Except GenerationError Unit × ω} {binding : ProviderBinding}
  {raw : Text}

theorem typeNames_strictNames (binding : ProviderBinding) :
    binding.typeNames Pass.strictNames =
      (binding.typeNames JavaType.sourceName).mapError UnnameableType.toError :=
  typeNames_mapError UnnameableType.toError JavaType.sourceName binding

theorem emit_strictNames_of_error {failure : UnnameableType}
    (h : binding.typeNames JavaType.sourceName = .error failure) (signature : Text) (names : ν)
    (source : ω) :
    binding.emit ⟨Pass.strictNames, accessor, writeMethod⟩ signature names source =
      (.error failure.toError, names, source) := by
  have named := binding.typeNames_strictNames
  rw [h] at named
  exact emit_of_error named signature names source

theorem emit_of_named (shape : binding.provider.type = .parameterized raw [binding.target.type])
    {text : Text} (h : binding.target.type.sourceName = .ok text) (signature : Text) (names : ν)
    (source : ω) :
    binding.emit ⟨Pass.strictNames, accessor, writeMethod⟩ signature names source =
      let asked := accessor binding.target names
      let written := writeMethod signature
        (creatorBody (JavaType.applied raw [text]) text asked.1) source
      (written.1, asked.2, written.2) := by
  have argument := JavaType.sourceText_true_of_false (JavaType.sourceName_eq_ok_iff.mp h)
  have provider : binding.provider.type.sourceName = .ok (JavaType.applied raw [text]) := by
    rw [shape]
    exact JavaType.sourceName_single_eq_ok_iff.mpr ⟨text, argument, rfl⟩
  have named := binding.typeNames_strictNames
  rw [typeNames_eq_ok_iff.mpr ⟨provider, h⟩] at named
  exact emit_of_ok named signature names source

theorem emit_of_nameableWildcard
    (shape : binding.provider.type = .parameterized raw [binding.target.type])
    (h : binding.target.type.IsNameableWildcard) (signature : Text) (names : ν) (source : ω) :
    binding.emit ⟨Pass.strictNames, accessor, writeMethod⟩ signature names source =
      (.error (UnnameableType.toError ⟨binding.target.type, .wildcard⟩), names, source) := by
  obtain ⟨⟨text, argument⟩, alone⟩ := JavaType.argument_only_iff.mpr ⟨h, rfl⟩
  refine emit_strictNames_of_error (typeNames_eq_error_iff.mpr (.inr ?_)) signature names source
  rw [shape]
  exact ⟨_, JavaType.sourceName_single_eq_ok_iff.mpr ⟨text, argument, rfl⟩,
    JavaType.sourceName_eq_error_iff.mpr ⟨rfl, alone⟩⟩

theorem emit_of_obstacle
    (shape : binding.provider.type = .parameterized raw [binding.target.type]) {cause : Unnameable}
    (h : FirstObstacle (⟨binding.target.type, true⟩ :: binding.target.type.innerParts) cause)
    (signature : Text) (names : ν) (source : ω) :
    binding.emit ⟨Pass.strictNames, accessor, writeMethod⟩ signature names source =
      (.error (UnnameableType.toError ⟨binding.provider.type, cause⟩), names, source) := by
  refine emit_strictNames_of_error (typeNames_eq_error_iff.mpr (.inl ?_)) signature names source
  rw [shape]
  exact JavaType.sourceName_single_eq_error_iff.mpr
    ⟨rfl, JavaType.sourceText_eq_error_iff.mpr h⟩

theorem emit_eq_ok_iff (shape : binding.provider.type = .parameterized raw [binding.target.type])
    {signature : Text} {source : ω}
    (writable : ∀ body, (writeMethod signature body source).1 = .ok ()) (names : ν) :
    (binding.emit ⟨Pass.strictNames, accessor, writeMethod⟩ signature names source).1 = .ok () ↔
      ∃ text, binding.target.type.sourceName = .ok text := by
  constructor
  · intro well
    rcases binding.target.type.argument_cases with named | nameable | ⟨cause, first⟩
    · exact named
    · rw [emit_of_nameableWildcard shape nameable] at well
      cases well
    · rw [emit_of_obstacle shape first] at well
      cases well
  · rintro ⟨text, named⟩
    rw [emit_of_named shape named]
    exact writable _

theorem emit_eq_error_iff
    (shape : binding.provider.type = .parameterized raw [binding.target.type])
    {signature : Text} {source : ω}
    (writable : ∀ body, (writeMethod signature body source).1 = .ok ()) (names : ν)
    {error : GenerationError} :
    (binding.emit ⟨Pass.strictNames, accessor, writeMethod⟩ signature names source).1 =
        .error error ↔
      (binding.target.type.IsNameableWildcard ∧
        error = UnnameableType.toError ⟨binding.target.type, .wildcard⟩) ∨
      ∃ cause, FirstObstacle (⟨binding.target.type, true⟩ :: binding.target.type.innerParts) cause ∧
        error = UnnameableType.toError ⟨binding.provider.type, cause⟩ := by
  constructor
  · intro failed
    rcases binding.target.type.argument_cases with ⟨text, named⟩ | nameable | ⟨cause, first⟩
    · rw [emit_of_named shape named] at failed
      cases (writable _).symm.trans failed
    · rw [emit_of_nameableWildcard shape nameable] at failed
      exact .inl ⟨nameable, (Except.error.inj failed).symm⟩
    · rw [emit_of_obstacle shape first] at failed
      exact .inr ⟨cause, first, (Except.error.inj failed).symm⟩
  · rintro (⟨nameable, rfl⟩ | ⟨cause, first, rfl⟩)
    · rw [emit_of_nameableWildcard shape nameable]
    · rw [emit_of_obstacle shape first]

end Outcomes

end ProviderBinding

/-- With a writer that takes every method, an emission goes well exactly if the argument of the
provider has a source name by itself. Otherwise the argument is blamed, as a wildcard, exactly if it
is one without a bound or with a bound that has a source name; in all other cases the type of the
provider is blamed, and the cause is the first part of the argument, which may be a wildcard itself,
that stands in the way. A failed emission touches nothing, so what is written names a provider by
the text of an argument that is no wildcard, and no text of plain names looks like one. -/
theorem ProviderBinding.emission_decided_by_argument {ν ω : Type} {key : Key} {raw : Text}
    {type : JavaType} (shape : key.type = .parameterized raw [type])
    (accessor : Key → ν → Text × ν)
    (writeMethod : Text → Text → ω → Except GenerationError Unit × ω) (signature : Text)
    (names : ν) (source : ω)
    (writable : ∀ body, (writeMethod signature body source).1 = .ok ()) :
    ∃ binding, ofKey key = .ok binding ∧
      let result := binding.emit ⟨Pass.strictNames, accessor, writeMethod⟩ signature names source
      (result.1 = .ok () ↔ ∃ text, type.sourceName = .ok text) ∧
        (result.1 = .error (UnnameableType.toError ⟨type, .wildcard⟩) ↔
          type.IsNameableWildcard) ∧
        (∀ error, result.1 = .error error → ¬ type.IsNameableWildcard →
          ∃ cause, FirstObstacle (⟨type, true⟩ :: type.innerParts) cause ∧
            error = UnnameableType.toError ⟨key.type, cause⟩) ∧
        (∀ error, result.1 = .error error → result.2 = (names, source)) ∧
        ∀ text, type.sourceName = .ok text →
          result.2.2 = (writeMethod signature (creatorBody (JavaType.applied raw [text]) text
            (accessor (key.withType type) names).1) source).2 ∧
          (∀ bound, type ≠ .wildcard bound) ∧
          (PlainNames type.parts → text.head? ≠ some '?') := by
  obtain ⟨keyType, qualifier⟩ := key
  obtain rfl : keyType = .parameterized raw [type] := shape
  refine ⟨_, rfl, emit_eq_ok_iff rfl writable names, ?_, ?_, ?_, ?_⟩
  · rw [emit_eq_error_iff rfl writable]
    constructor
    · rintro (⟨nameable, -⟩ | ⟨cause, -, same⟩)
      · exact nameable
      · have blamed := congrArg UnnameableType.type (UnnameableType.toError_injective same)
        exact absurd blamed (type.ne_parameterized_single raw)
    · exact fun nameable => .inl ⟨nameable, rfl⟩
  · intro error failed other
    rcases (emit_eq_error_iff rfl writable names).mp failed with ⟨nameable, -⟩ | provider
    · exact absurd nameable other
    · exact provider
  · intro error failed
    rcases (emit_eq_error_iff rfl writable names).mp failed with ⟨nameable, -⟩ | ⟨cause, first, -⟩
    · rw [emit_of_nameableWildcard rfl nameable]
    · rw [emit_of_obstacle rfl first]
  · intro text named
    refine ⟨?_, ?_, fun plain => ?_⟩
    · rw [emit_of_named rfl named]
    · rintro bound rfl
      cases named
    · have head : (text ++ []).head? ≠ some '?' :=
        JavaType.head?_sourceText (JavaType.sourceName_eq_ok_iff.mp named) plain rfl
      rwa [List.append_nil] at head

/-- A provider of a wildcard is refused on account of the wildcard, and a provider of a list of
wildcards is written. -/
theorem ProviderBinding.emission_decided_by_argument_list :
    let foo : JavaType := .wildcard (.subtypesOf (.classType "a.Foo".toList))
    let list : JavaType := .parameterized "List".toList [foo]
    let provider (type : JavaType) : Key :=
      .markedWith (.parameterized "Provider".toList [type]) "Blue".toList
    let answer (binding : ProviderBinding) : Except GenerationError Unit :=
      (binding.emit ⟨Pass.strictNames, AccessorNames.request, Pass.append⟩ "make()".toList
        (.startingWith AccessorNames.defaultStart) (.withIndent 2)).1
    (∃ binding, ofKey (provider foo) = .ok binding ∧
      answer binding = .error (UnnameableType.toError ⟨foo, .wildcard⟩)) ∧
    ∃ binding, ofKey (provider list) = .ok binding ∧ answer binding = .ok () := by
  intro foo list provider answer
  have writable : ∀ body,
      (Pass.append "make()".toList body (.withIndent 2)).1 = .ok () := fun _ => rfl
  have ofFoo : (provider foo).type = .parameterized "Provider".toList [foo] := rfl
  have ofList : (provider list).type = .parameterized "Provider".toList [list] := rfl
  obtain ⟨binding, made, -, wildcard, -⟩ := emission_decided_by_argument ofFoo
    AccessorNames.request Pass.append "make()".toList (.startingWith AccessorNames.defaultStart)
    (.withIndent 2) writable
  obtain ⟨other, madeOther, well, -⟩ := emission_decided_by_argument ofList
    AccessorNames.request Pass.append "make()".toList (.startingWith AccessorNames.defaultStart)
    (.withIndent 2) writable
  exact ⟨⟨binding, made, wildcard.mpr (.inr ⟨_, _, .inl rfl, rfl⟩)⟩, other, madeOther,
    well.mpr ⟨_, rfl⟩⟩

end Injector
