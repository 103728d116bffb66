import Injector.Settings
import Injector.Proofs.ProviderBinding.Unwrapping
/-!
Which keys have a provider binding. A key is recognised by the name of the class that its type is
made from, and bound by the shape of its type, so a provider with the wrong number of arguments is
refused and not passed over.
-/
namespace Injector

section Shapes

theorem JavaType.isParameterized_eq_false_iff {type : JavaType} :
    type.isParameterized = false ↔ ∀ raw arguments, type ≠ .parameterized raw arguments := by
  cases type <;> simp [isParameterized]

theorem JavaType.parameterized_of_arity {type : JavaType} {count : Nat} :
    type.isParameterized = true ∧ type.arity = count ↔
      ∃ raw arguments, type = .parameterized raw arguments ∧ arguments.length = count := by
  cases type <;> simp [isParameterized, arity, arguments]

theorem BindingFault.fits_iff {type : JavaType} {fault : BindingFault} :
    fault.Fits type ↔
      (fault = .notParameterized ∧ ∀ raw arguments, type ≠ .parameterized raw arguments) ∨
        ∃ raw arguments, type = .parameterized raw arguments ∧ arguments.length ≠ 1 ∧
          fault = .wrongArity arguments.length := by
  cases fault with
  | notParameterized =>
      rw [Fits, JavaType.isParameterized_eq_false_iff]
      simp
  | wrongArity found =>
      rw [Fits, ← and_assoc, JavaType.parameterized_of_arity]
      constructor
      · rintro ⟨⟨raw, arguments, rfl, rfl⟩, other⟩
        exact .inr ⟨raw, arguments, rfl, other, rfl⟩
      · rintro (⟨same, _⟩ | ⟨raw, arguments, rfl, other, same⟩)
        · cases same
        · obtain rfl := BindingFault.wrongArity.inj same
          exact ⟨⟨raw, arguments, rfl, rfl⟩, other⟩

end Shapes

namespace ProviderBinding

variable {key : Key} {binding other : ProviderBinding}

theorem exists_ofKey_eq_ok_iff :
    (∃ binding, ofKey key = .ok binding) ↔ ∃ raw type, key.type = .parameterized raw [type] := by
  constructor
  · rintro ⟨binding, made⟩
    obtain rfl := ofKey_eq_ok_iff.mp made
    obtain ⟨raw, shape⟩ := binding.argument
    exact ⟨raw, _, shape⟩
  · rintro ⟨raw, type, shape⟩
    exact ⟨⟨key, key.withType type, ⟨raw, shape⟩, rfl⟩, ofKey_eq_ok_iff.mpr rfl⟩

/-- Providers of one class differ in what they provide. -/
theorem target_eq_iff (h : binding.provider.type.rawName? = other.provider.type.rawName?) :
    binding.target = other.target ↔ binding.provider = other.provider := by
  obtain ⟨raw, shape⟩ := binding.argument
  obtain ⟨otherRaw, otherShape⟩ := other.argument
  rw [shape, otherShape] at h
  obtain rfl : raw = otherRaw := Option.some.inj h
  constructor
  · intro same
    have type : binding.provider.type = other.provider.type := by rw [shape, otherShape, same]
    have qualifier : binding.provider.qualifier = other.provider.qualifier := by
      rw [← binding.sameQualifier, ← other.sameQualifier, same]
    exact congrArg₂ Key.mk type qualifier
  · intro same
    rw [eq_of_provider_eq same]

end ProviderBinding

namespace Settings

theorem isProviderType_iff {settings : Settings} {type : JavaType} :
    settings.isProviderType type = true ↔
      ∃ raw, type.rawName? = some raw ∧ raw ∈ settings.providerTypes := by
  rw [isProviderType]
  cases type.rawName? with
  | none => simp
  | some raw => simp

theorem implicitBinding?_eq_none_iff {settings : Settings} {key : Key} :
    settings.implicitBinding? key = none ↔ settings.isProviderType key.type = false := by
  rw [implicitBinding?]
  cases settings.isProviderType key.type <;> simp

theorem implicitBinding?_eq_some_iff {settings : Settings} {key : Key}
    {result : Except MalformedBinding ProviderBinding} :
    settings.implicitBinding? key = some result ↔
      settings.isProviderType key.type = true ∧ result = ProviderBinding.ofKey key := by
  rw [implicitBinding?]
  cases settings.isProviderType key.type <;> simp [eq_comm]

/-- A key is passed over exactly if its type is made from no class or from one that does not count as
a provider, and any other key has the binding, or the failure, that it has by itself. There is a
binding exactly if the type has one argument: it keeps the key, its target is that argument under the
qualifier of the key, and all that it needs is the target, without fail but not before it is asked.
The failure names the key, and says that its type is not parameterized or how many arguments it has
instead of one. Providers made from one class have the same target only if they are the same key. -/
theorem key_recognised_by_class_bound_by_shape (settings : Settings) (key : Key) :
    (settings.implicitBinding? key = none ↔
        key.type.rawName? = none ∨
          ∃ raw, key.type.rawName? = some raw ∧ raw ∉ settings.providerTypes) ∧
      (∀ result, settings.implicitBinding? key = some result ↔
        (∃ raw, key.type.rawName? = some raw ∧ raw ∈ settings.providerTypes) ∧
          result = ProviderBinding.ofKey key) ∧
      ((∃ binding, ProviderBinding.ofKey key = .ok binding) ↔
        ∃ raw type, key.type = .parameterized raw [type]) ∧
      (∀ binding, ProviderBinding.ofKey key = .ok binding →
        binding.provider = key ∧
          (∃ raw, key.type = .parameterized raw [binding.target.type]) ∧
          binding.target.qualifier = key.qualifier ∧
          binding.dependencies = [⟨key, binding.target, false, true⟩]) ∧
      (∀ failure, ProviderBinding.ofKey key = .error failure ↔
        failure.key = key ∧
          ((failure.fault = .notParameterized ∧
              ∀ raw arguments, key.type ≠ .parameterized raw arguments) ∨
            ∃ raw arguments, key.type = .parameterized raw arguments ∧ arguments.length ≠ 1 ∧
              failure.fault = .wrongArity arguments.length)) ∧
      ∀ other binding otherBinding, ProviderBinding.ofKey key = .ok binding →
        ProviderBinding.ofKey other = .ok otherBinding →
        key.type.rawName? = other.type.rawName? →
        (binding.target = otherBinding.target ↔ key = other) := by
  refine ⟨?_, ?_, ProviderBinding.exists_ofKey_eq_ok_iff, ?_, ?_, ?_⟩
  · rw [implicitBinding?_eq_none_iff, ← Bool.not_eq_true, isProviderType_iff]
    cases key.type.rawName? <;> simp
  · intro result
    rw [implicitBinding?_eq_some_iff, isProviderType_iff]
  · intro binding made
    obtain rfl := ProviderBinding.ofKey_eq_ok_iff.mp made
    exact ⟨rfl, binding.argument, binding.sameQualifier, rfl⟩
  · intro failure
    rw [ProviderBinding.ofKey_eq_error_iff, BindingFault.fits_iff]
  · intro other binding otherBinding made madeOther sameClass
    obtain rfl := ProviderBinding.ofKey_eq_ok_iff.mp made
    obtain rfl := ProviderBinding.ofKey_eq_ok_iff.mp madeOther
    exact ProviderBinding.target_eq_iff sameClass

-- A provider without an argument list and one with an empty list are refused for different faults.
example :
    let name := "javax.inject.Provider".toList
    let raw := Key.ofType (.classType name)
    let bare := Key.ofType (.parameterized name [])
    Settings.default.implicitBinding? raw = some (.error ⟨raw, .notParameterized⟩) ∧
      Settings.default.implicitBinding? bare = some (.error ⟨bare, .wrongArity 0⟩) :=
  ⟨rfl, rfl⟩

end Settings

end Injector
