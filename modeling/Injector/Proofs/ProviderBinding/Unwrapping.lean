import Injector.ProviderBinding
import Mathlib.Data.List.Nodup
/-!
Unwrapping a key. The target of a provider may be a provider again, so bindings lead from key to
key. Every step takes one layer off the type and keeps the qualifier; the keys on the way differ,
and the last one is refused for what its type is.
-/
namespace Injector

section Layers

/-- How many types with exactly one argument stand around each other at the outside of a type. -/
def JavaType.layers : JavaType → Nat
  | .parameterized _ [type] => type.layers + 1
  | _ => 0

/-- A fault is the one that a type has: it is not parameterized at all, or it has some other number
of arguments than one. -/
def BindingFault.Fits (type : JavaType) : BindingFault → Prop
  | .notParameterized => type.isParameterized = false
  | .wrongArity found => type.isParameterized = true ∧ type.arity = found ∧ found ≠ 1

/-- The targets of bindings, taken again and again, lead from a key through some keys to one that
has no binding. -/
inductive Key.Unwraps : Key → List Key → MalformedBinding → Prop
  | refused {key : Key} {failure : MalformedBinding} :
      ProviderBinding.ofKey key = .error failure → Unwraps key [key] failure
  | bound {key : Key} {binding : ProviderBinding} {keys : List Key} {failure : MalformedBinding} :
      ProviderBinding.ofKey key = .ok binding → Unwraps binding.target keys failure →
      Unwraps key (key :: keys) failure

end Layers

section Bindings

theorem JavaType.ne_parameterized_single (raw : Text) (type : JavaType) :
    type ≠ .parameterized raw [type] := by
  intro same
  have count := congrArg layers same
  rw [layers] at count
  omega

/-- The target of a provider has the provider's type without its outermost layer. -/
theorem ProviderBinding.layers_provider (binding : ProviderBinding) :
    binding.provider.type.layers = binding.target.type.layers + 1 := by
  obtain ⟨raw, shape⟩ := binding.argument
  rw [shape, JavaType.layers]

/-- A provider has one target only. -/
theorem ProviderBinding.eq_of_provider_eq {binding other : ProviderBinding}
    (h : binding.provider = other.provider) : binding = other := by
  obtain ⟨provider, ⟨type, qualifier⟩, ⟨raw, shape⟩, same⟩ := binding
  obtain ⟨otherProvider, ⟨otherType, otherQualifier⟩, ⟨otherRaw, otherShape⟩, otherSame⟩ := other
  obtain rfl : provider = otherProvider := h
  obtain ⟨-, arguments⟩ := JavaType.parameterized.inj (shape.symm.trans otherShape)
  obtain rfl := List.singleton_inj.mp arguments
  obtain rfl := same.trans otherSame.symm
  rfl

theorem BindingFault.Fits.unique {type : JavaType} {fault other : BindingFault}
    (h : fault.Fits type) (h' : other.Fits type) : fault = other := by
  cases fault with
  | notParameterized =>
      cases other with
      | notParameterized => rfl
      | wrongArity found => exact absurd (h.symm.trans h'.1) Bool.false_ne_true
  | wrongArity found =>
      cases other with
      | notParameterized => exact absurd (h'.symm.trans h.1) Bool.false_ne_true
      | wrongArity other => rw [← h.2.1, ← h'.2.1]

theorem BindingFault.Fits.layers_eq_zero {type : JavaType} {fault : BindingFault}
    (h : fault.Fits type) : type.layers = 0 := by
  fun_cases JavaType.layers type with
  | case1 raw argument =>
      cases fault with
      | notParameterized => cases h
      | wrongArity found => exact absurd h.2.1.symm h.2.2
  | case2 => rfl

/-- A type with one argument has no fault. -/
theorem ProviderBinding.not_fits (binding : ProviderBinding) (fault : BindingFault) :
    ¬ fault.Fits binding.provider.type := by
  obtain ⟨raw, shape⟩ := binding.argument
  rw [shape]
  intro h
  cases fault with
  | notParameterized => cases h
  | wrongArity found => exact h.2.2 h.2.1.symm

/-- A key has a binding, or its type has a fault. -/
theorem ProviderBinding.ofKey_cases (key : Key) :
    (∃ binding, ofKey key = .ok binding ∧ binding.provider = key) ∨
      ∃ failure, ofKey key = .error failure ∧ failure.key = key ∧ failure.fault.Fits key.type := by
  rw [ofKey]
  split
  next => exact .inl ⟨_, rfl, rfl⟩
  next raw arguments other shape =>
    refine .inr ⟨_, rfl, rfl, ?_⟩
    rw [BindingFault.Fits, shape]
    refine ⟨rfl, rfl, fun one => ?_⟩
    obtain ⟨type, rfl⟩ := List.length_eq_one_iff.mp one
    exact other type rfl
  next single parameterized =>
    refine .inr ⟨_, rfl, rfl, ?_⟩
    rw [BindingFault.Fits]
    cases shape : key.type with
    | parameterized raw arguments => exact absurd shape (parameterized raw arguments)
    | _ => rfl

theorem ProviderBinding.ofKey_eq_ok_iff {key : Key} {binding : ProviderBinding} :
    ofKey key = .ok binding ↔ binding.provider = key := by
  rcases ofKey_cases key with ⟨made, found, rfl⟩ | ⟨failure, found, rfl, fits⟩
  · rw [found, Except.ok.injEq]
    exact ⟨fun same => same ▸ rfl, fun same => (eq_of_provider_eq same).symm⟩
  · rw [found]
    refine iff_of_false (fun same => by cases same) fun same => ?_
    rw [← same] at fits
    exact binding.not_fits _ fits

theorem ProviderBinding.ofKey_eq_error_iff {key : Key} {failure : MalformedBinding} :
    ofKey key = .error failure ↔ failure.key = key ∧ failure.fault.Fits key.type := by
  rcases ofKey_cases key with ⟨made, found, rfl⟩ | ⟨other, found, rfl, fits⟩
  · rw [found]
    exact iff_of_false (fun same => by cases same) fun h => made.not_fits _ h.2
  · rw [found, Except.error.injEq]
    constructor
    · rintro rfl
      exact ⟨rfl, fits⟩
    · rintro ⟨same, fits'⟩
      obtain ⟨key, fault⟩ := failure
      obtain rfl : key = other.key := same
      obtain rfl := fits'.unique fits
      rfl

end Bindings

section Chains

variable {key : Key} {keys : List Key} {failure : MalformedBinding}

theorem Key.Unwraps.unique {others : List Key} {other : MalformedBinding}
    (h : key.Unwraps keys failure) (h' : key.Unwraps others other) :
    others = keys ∧ other = failure := by
  induction h generalizing others other with
  | refused refuses =>
      cases h' with
      | refused again => exact ⟨rfl, Except.error.inj (again.symm.trans refuses)⟩
      | bound made _ => cases made.symm.trans refuses
  | bound makes _ ih =>
      cases h' with
      | refused refused => cases refused.symm.trans makes
      | bound again rest =>
          obtain rfl := Except.ok.inj (again.symm.trans makes)
          obtain ⟨rfl, rfl⟩ := ih rest
          exact ⟨rfl, rfl⟩

/-- The way ends, since every binding takes a layer off. -/
theorem Key.exists_unwraps (key : Key) : ∃ keys failure, key.Unwraps keys failure := by
  induction layers : key.type.layers generalizing key with
  | zero =>
      rcases ProviderBinding.ofKey_cases key with ⟨binding, made, rfl⟩ | ⟨failure, refused, -, -⟩
      · rw [binding.layers_provider] at layers
        cases layers
      · exact ⟨_, _, .refused refused⟩
  | succ count ih =>
      rcases ProviderBinding.ofKey_cases key with ⟨binding, made, rfl⟩ | ⟨failure, refused, -, -⟩
      · rw [binding.layers_provider] at layers
        obtain ⟨keys, failure, rest⟩ := ih binding.target (Nat.succ.inj layers)
        exact ⟨_, _, .bound made rest⟩
      · exact ⟨_, _, .refused refused⟩

theorem Key.Unwraps.length_eq (h : key.Unwraps keys failure) :
    keys.length = key.type.layers + 1 := by
  induction h with
  | refused refused =>
      rw [(ProviderBinding.ofKey_eq_error_iff.mp refused).2.layers_eq_zero]
      rfl
  | bound made _ ih =>
      obtain rfl := ProviderBinding.ofKey_eq_ok_iff.mp made
      rw [List.length_cons, ih, ProviderBinding.layers_provider]

theorem Key.Unwraps.qualifier_eq (h : key.Unwraps keys failure) :
    ∀ other ∈ keys, other.qualifier = key.qualifier := by
  induction h with
  | refused _ => exact List.forall_mem_singleton.mpr rfl
  | @bound key binding keys failure made _ ih =>
      obtain rfl := ProviderBinding.ofKey_eq_ok_iff.mp made
      refine List.forall_mem_cons.mpr ⟨rfl, fun other mem => ?_⟩
      rw [ih other mem, binding.sameQualifier]

theorem Key.Unwraps.layers_le (h : key.Unwraps keys failure) :
    ∀ other ∈ keys, other.type.layers ≤ key.type.layers := by
  induction h with
  | refused _ => exact List.forall_mem_singleton.mpr (Nat.le_refl _)
  | @bound key binding keys failure made _ ih =>
      obtain rfl := ProviderBinding.ofKey_eq_ok_iff.mp made
      refine List.forall_mem_cons.mpr ⟨Nat.le_refl _, fun other mem => ?_⟩
      have less := ih other mem
      rw [binding.layers_provider]
      omega

/-- No key comes up twice, since later keys have fewer layers. -/
theorem Key.Unwraps.nodup (h : key.Unwraps keys failure) : keys.Nodup := by
  induction h with
  | refused _ => exact List.nodup_singleton _
  | @bound key binding keys failure made rest ih =>
      obtain rfl := ProviderBinding.ofKey_eq_ok_iff.mp made
      refine List.nodup_cons.mpr ⟨fun again => ?_, ih⟩
      have less := rest.layers_le _ again
      rw [binding.layers_provider] at less
      omega

/-- The failure at the end is that of the last key. -/
theorem Key.Unwraps.failure_fits (h : key.Unwraps keys failure) :
    keys.getLast? = some failure.key ∧ failure.fault.Fits failure.key.type := by
  induction h with
  | refused refused =>
      obtain ⟨rfl, fits⟩ := ProviderBinding.ofKey_eq_error_iff.mp refused
      exact ⟨rfl, fits⟩
  | bound _ _ ih =>
      obtain ⟨last, fits⟩ := ih
      rw [List.getLast?_cons, last]
      exact ⟨rfl, fits⟩

end Chains

end Injector
