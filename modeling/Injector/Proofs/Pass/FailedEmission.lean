import Injector.Proofs.Pass.Run
/-!
Emissions that fail. A type without a name stops an emission before it has an effect, and so does
a key that is no provider: a run goes the same way with such calls and without them. A writer that
fails leaves the accessor of the target behind, and nothing else.
-/
namespace Injector.Pass

section Refusals

/-- The steps that do one thing with a provider, to bind it or to write for it. -/
def Step.isAttempt : Step → Bool
  | .emit _ _ => true
  | .bind _ => true
  | _ => false

/-- Whether a call is bound to be refused: its key is no provider, or one of the types that it
has to write has no name. -/
def Call.isRefused (call : Call) : Bool :=
  match call.step with
  | .emit key _ =>
      match ProviderBinding.ofKey key with
      | .error _ => true
      | .ok binding => !(binding.typeNames call.sourceName).isOk
  | .bind key => !(ProviderBinding.ofKey key).isOk
  | _ => false

example : (Call.mk .default JavaType.sourceName true (.emit (.ofType (.parameterized
    "Provider".toList [.wildcard .unbounded])) "create()".toList)).isRefused = true := by
  decide

theorem emit_of_unnamed {call : Call} {binding : ProviderBinding} {failure : UnnameableType}
    (h : binding.typeNames call.sourceName = .error failure) (signature : Text) (pass : Pass) :
    pass.emit call.frame binding signature = (.error failure.toError, pass) := by
  have named := call.typeNames_frame binding
  rw [h] at named
  rw [emit, ProviderBinding.emit_of_error named]
  rfl

theorem emit_answer_of_named {call : Call} {binding : ProviderBinding} {found : Text × Text}
    (h : binding.typeNames call.sourceName = .ok found) (signature : Text) (pass : Pass) :
    (pass.emit call.frame binding signature).1 =
      if call.writable then .ok .written else .error .unwritable := by
  have named := call.typeNames_frame binding
  rw [h] at named
  rw [emit, ProviderBinding.emit_of_ok named]
  simp only [call.writeMethod_answer]
  cases call.writable <;> rfl

/-- A call that is bound to be refused is refused in the same way wherever it stands. -/
theorem perform_of_isRefused {call : Call} (h : call.isRefused = true) :
    call.step.isAttempt = true ∧
      ∃ refusal, ∀ pass, perform pass call = (.error (.refused refusal), pass) := by
  obtain ⟨settings, sourceName, writable, step⟩ := call
  cases step with
  | emit key signature =>
      refine ⟨rfl, ?_⟩
      cases bound : ProviderBinding.ofKey key with
      | error failure =>
          refine ⟨.malformed failure, fun pass => ?_⟩
          simp only [perform, Pass.step, bound, MalformedBinding.toError]
      | ok binding =>
          cases named : binding.typeNames sourceName with
          | error failure =>
              refine ⟨.unnameable failure, fun pass => ?_⟩
              simp only [perform, Pass.step, bound]
              exact emit_of_unnamed named signature pass
          | ok found => simp [Call.isRefused, bound, named, Except.isOk, Except.toBool] at h
  | bind key =>
      refine ⟨rfl, ?_⟩
      cases bound : ProviderBinding.ofKey key with
      | error failure =>
          refine ⟨.malformed failure, fun pass => ?_⟩
          simp only [perform, Pass.step, bound, MalformedBinding.toError]
      | ok binding => simp [Call.isRefused, bound, Except.isOk, Except.toBool] at h
  | name | write | request | depend | contains | dependenciesOf => cases h

/-- An attempt that is not bound to be refused is not refused anywhere. -/
theorem answer_ne_refused {call : Call} (attempt : call.step.isAttempt = true)
    (h : call.isRefused = false) (pass : Pass) (refusal : Refusal) :
    (pass.perform call).1 ≠ .error (.refused refusal) := by
  obtain ⟨settings, sourceName, writable, step⟩ := call
  cases step with
  | emit key signature =>
      cases bound : ProviderBinding.ofKey key with
      | error failure => simp [Call.isRefused, bound] at h
      | ok binding =>
          cases named : binding.typeNames sourceName with
          | error failure => simp [Call.isRefused, bound, named, Except.isOk, Except.toBool] at h
          | ok found =>
              simp only [perform, Pass.step, bound]
              rw [emit_answer_of_named named]
              cases writable <;> simp
  | bind key =>
      cases bound : ProviderBinding.ofKey key with
      | error failure => simp [Call.isRefused, bound, Except.isOk, Except.toBool] at h
      | ok binding => simp [perform, Pass.step, bound]
  | name | write | request | depend | contains | dependenciesOf => cases attempt

theorem isRefused_iff (pass : Pass) (call : Call) :
    call.isRefused = true ↔ call.step.isAttempt = true ∧
      ∃ refusal, (pass.perform call).1 = .error (.refused refusal) := by
  constructor
  · intro h
    obtain ⟨attempt, refusal, same⟩ := perform_of_isRefused h
    exact ⟨attempt, refusal, by rw [same]⟩
  · rintro ⟨attempt, refusal, answer⟩
    by_contra h
    exact answer_ne_refused attempt (Bool.eq_false_iff.mpr h) pass refusal answer

/-- The pass after a run is the same if the calls that are bound to be refused are left out. -/
theorem after_filter (pass : Pass) (calls : List Call) :
    pass.after (calls.filter (!·.isRefused)) = pass.after calls := by
  induction calls generalizing pass with
  | nil => rfl
  | cons call rest ih =>
      cases h : call.isRefused with
      | true =>
          obtain ⟨-, refusal, same⟩ := perform_of_isRefused h
          rw [List.filter_cons_of_neg (by simp [h]), ih, after, same]
      | false => rw [List.filter_cons_of_pos (by simp [h]), after, after, ih]

/-- The other calls of a run have the same answers if those calls are left out. -/
theorem trace_filter (pass : Pass) (calls : List Call) :
    pass.trace (calls.filter (!·.isRefused)) =
      (pass.trace calls).filter (!·.1.isRefused) := by
  induction calls generalizing pass with
  | nil => rfl
  | cons call rest ih =>
      cases h : call.isRefused with
      | true =>
          obtain ⟨-, refusal, same⟩ := perform_of_isRefused h
          rw [List.filter_cons_of_neg (by simp [h]), trace,
            List.filter_cons_of_neg (by simp [h]), ih, same]
      | false =>
          rw [List.filter_cons_of_pos (by simp [h]), trace, trace,
            List.filter_cons_of_pos (by simp [h]), ih]

end Refusals

section Retries

variable {ω : Type} {sourceName : JavaType → Except GenerationError Text}
  {binding : ProviderBinding} {providerName targetName : Text}

/-- With a source that can be written to, an emission appends one method. -/
theorem emit_append (h : binding.typeNames sourceName = .ok (providerName, targetName))
    (signature : Text) (names : AccessorNames) (source : MethodSource) :
    binding.emit ⟨sourceName, AccessorNames.request, append⟩ signature names source =
      (.ok (), (names.request binding.target).2,
        { source with
          text := source.text ++ MethodSource.methodText source.indent signature
            (ProviderBinding.creatorBody providerName targetName
              (names.request binding.target).1) }) := by
  rw [ProviderBinding.emit_of_ok h]
  rfl

/-- An emission that is tried again appends the same text as the first time, whatever happened
in between. -/
theorem emit_append_again (h : binding.typeNames sourceName = .ok (providerName, targetName))
    (signature : Text) (pass : Pass) (calls : List Call) :
    let retried := after { pass with names := (pass.names.request binding.target).2 } calls
    ∃ text,
      binding.emit ⟨sourceName, AccessorNames.request, append⟩ signature pass.names pass.source =
          (.ok (), (pass.names.request binding.target).2,
            { pass.source with text := pass.source.text ++ text }) ∧
        binding.emit ⟨sourceName, AccessorNames.request, append⟩ signature retried.names
            retried.source =
          (.ok (), retried.names, { retried.source with text := retried.source.text ++ text }) := by
  intro retried
  have found : retried.names.name? binding.target = some (pass.names.request binding.target).1 :=
    keeps_after _ calls _ _ (AccessorNames.name?_request_self pass.names binding.target)
  have indent : retried.source.indent = pass.source.indent := indent_after _ calls
  refine ⟨_, emit_append h signature pass.names pass.source, ?_⟩
  rw [emit_append h, AccessorNames.request_of_some found, ← indent]

end Retries

/-- A type without a name stops an emission before it asks for a name or writes a method. So the
calls that are refused can be put into a run or taken out of it, and the answers to the other calls
and what the run makes stay the same. If the writer fails, its error is the answer, the target has
its name and nothing else is different, and the emission can be tried again at any time with the
text that it would have had at first. -/
theorem failed_emission_is_confined :
    (∀ (ε ν ω : Type) (emitter : Emitter ε ν ω) (binding : ProviderBinding) (signature : Text)
        (names : ν) (source : ω) (failure : ε),
      (emitter.sourceName binding.provider.type = .error failure ∨
        ∃ providerName, emitter.sourceName binding.provider.type = .ok providerName ∧
          emitter.sourceName binding.target.type = .error failure) →
      binding.emit emitter signature names source = (.error failure, names, source)) ∧
    (∀ (pass : Pass) (call : Call), call.isRefused = true ↔ call.step.isAttempt = true ∧
      ∃ refusal, (pass.perform call).1 = .error (.refused refusal)) ∧
    (∀ (pass : Pass) (calls others : List Call),
      calls.filter (!·.isRefused) = others.filter (!·.isRefused) →
      (pass.trace calls).filter (!·.1.isRefused) = (pass.trace others).filter (!·.1.isRefused) ∧
        pass.after calls = pass.after others) ∧
    ∀ (ω : Type) (sourceName : JavaType → Except GenerationError Text)
        (writeMethod : Text → Text → ω → Except GenerationError Unit × ω)
        (binding : ProviderBinding) (signature providerName targetName : Text) (pass : Pass)
        (source : ω) (failure : GenerationError),
      sourceName binding.provider.type = .ok providerName →
      sourceName binding.target.type = .ok targetName →
      let asked := pass.names.request binding.target
      let written := writeMethod signature
        (ProviderBinding.creatorBody providerName targetName asked.1) source
      written.1 = .error failure →
      binding.emit ⟨sourceName, AccessorNames.request, writeMethod⟩ signature pass.names source =
          (.error failure, asked.2, written.2) ∧
        asked.2.name? binding.target = some asked.1 ∧
        (∀ other, other ≠ binding.target → asked.2.name? other = pass.names.name? other) ∧
        ∀ calls, let retried := after { pass with names := asked.2 } calls
          ∃ text,
            binding.emit ⟨sourceName, AccessorNames.request, append⟩ signature pass.names
                pass.source =
              (.ok (), asked.2, { pass.source with text := pass.source.text ++ text }) ∧
            binding.emit ⟨sourceName, AccessorNames.request, append⟩ signature retried.names
                retried.source =
              (.ok (), retried.names,
                { retried.source with text := retried.source.text ++ text }) := by
  refine ⟨?_, isRefused_iff, ?_, ?_⟩
  · intro ε ν ω emitter binding signature names source failure h
    exact ProviderBinding.emit_of_error (ProviderBinding.typeNames_eq_error_iff.mpr h) signature
      names source
  · intro pass calls others same
    rw [← trace_filter, ← trace_filter, ← after_filter, same, after_filter]
    exact ⟨rfl, rfl⟩
  · intro ω sourceName writeMethod binding signature providerName targetName pass source failure
      provider target asked written failed
    have named := ProviderBinding.typeNames_eq_ok_iff.mpr ⟨provider, target⟩
    refine ⟨?_, AccessorNames.name?_request_self _ _, ?_, ?_⟩
    · rw [ProviderBinding.emit_of_ok named, ← failed]
    · intro other differ
      exact AccessorNames.name?_request_of_ne differ
    · exact emit_append_again named signature pass

end Injector.Pass
