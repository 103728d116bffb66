import Injector.ProviderBinding
/-!
The two ways in which an emission can go. It stops before it has an effect if one of its types has
no name, and otherwise it asks for one name and writes one method.
-/
namespace Injector.ProviderBinding

section Names

/-- The names of the provider's and the target's type. The provider's type is named first, so its
failure comes before that of the target's type. -/
def typeNames {ε : Type} (sourceName : JavaType → Except ε Text) (binding : ProviderBinding) :
    Except ε (Text × Text) :=
  match sourceName binding.provider.type with
  | .error failure => .error failure
  | .ok providerName => (sourceName binding.target.type).map (providerName, ·)

variable {ε ε' : Type} {sourceName : JavaType → Except ε Text} {binding : ProviderBinding}

theorem typeNames_eq_error_iff {failure : ε} :
    binding.typeNames sourceName = .error failure ↔
      sourceName binding.provider.type = .error failure ∨
        ∃ providerName, sourceName binding.provider.type = .ok providerName ∧
          sourceName binding.target.type = .error failure := by
  rw [typeNames]
  cases sourceName binding.provider.type with
  | error other => simp
  | ok providerName =>
      cases sourceName binding.target.type with
      | error other => simp [Except.map]
      | ok targetName => simp [Except.map]

theorem typeNames_eq_ok_iff {providerName targetName : Text} :
    binding.typeNames sourceName = .ok (providerName, targetName) ↔
      sourceName binding.provider.type = .ok providerName ∧
        sourceName binding.target.type = .ok targetName := by
  rw [typeNames]
  cases sourceName binding.provider.type with
  | error failure => simp
  | ok found =>
      cases sourceName binding.target.type with
      | error failure => simp [Except.map]
      | ok other => simp [Except.map]

theorem typeNames_mapError (f : ε → ε') (sourceName : JavaType → Except ε Text)
    (binding : ProviderBinding) :
    binding.typeNames (fun type => (sourceName type).mapError f) =
      (binding.typeNames sourceName).mapError f := by
  simp only [typeNames]
  cases sourceName binding.provider.type with
  | error failure => rfl
  | ok providerName => cases sourceName binding.target.type <;> rfl

end Names

section Effects

variable {ε ν ω : Type} {sourceName : JavaType → Except ε Text} {accessor : Key → ν → Text × ν}
  {writeMethod : Text → Text → ω → Except ε Unit × ω} {binding : ProviderBinding}

theorem emit_of_error {failure : ε} (h : binding.typeNames sourceName = .error failure)
    (signature : Text) (names : ν) (source : ω) :
    binding.emit ⟨sourceName, accessor, writeMethod⟩ signature names source =
      (.error failure, names, source) := by
  rcases typeNames_eq_error_iff.mp h with provider | ⟨providerName, provider, target⟩
  · simp only [emit, provider]
  · simp only [emit, provider, target]

theorem emit_of_ok {providerName targetName : Text}
    (h : binding.typeNames sourceName = .ok (providerName, targetName))
    (signature : Text) (names : ν) (source : ω) :
    binding.emit ⟨sourceName, accessor, writeMethod⟩ signature names source =
      let asked := accessor binding.target names
      let written := writeMethod signature (creatorBody providerName targetName asked.1) source
      (written.1, asked.2, written.2) := by
  obtain ⟨provider, target⟩ := typeNames_eq_ok_iff.mp h
  simp only [emit, provider, target]

/-- An emission asks for the name of its target or for no name. -/
theorem emit_names (emitter : Emitter ε ν ω) (binding : ProviderBinding) (signature : Text)
    (names : ν) (source : ω) :
    (binding.emit emitter signature names source).2.1 = names ∨
      (binding.emit emitter signature names source).2.1 =
        (emitter.accessor binding.target names).2 := by
  obtain ⟨sourceName, accessor, writeMethod⟩ := emitter
  cases h : binding.typeNames sourceName with
  | error failure => exact .inl (by rw [emit_of_error h])
  | ok found => exact .inr (by rw [emit_of_ok h])

/-- An emission writes one method or none. -/
theorem emit_source (emitter : Emitter ε ν ω) (binding : ProviderBinding) (signature : Text)
    (names : ν) (source : ω) :
    (binding.emit emitter signature names source).2.2 = source ∨
      ∃ body, (binding.emit emitter signature names source).2.2 =
        (emitter.writeMethod signature body source).2 := by
  obtain ⟨sourceName, accessor, writeMethod⟩ := emitter
  cases h : binding.typeNames sourceName with
  | error failure => exact .inl (by rw [emit_of_error h])
  | ok found => exact .inr ⟨_, by rw [emit_of_ok h]⟩

end Effects

end Injector.ProviderBinding
