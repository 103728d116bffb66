import Injector.Pass
import Injector.Proofs.AccessorNames.Request
import Injector.Proofs.ProviderBinding.Emission
/-!
Runs of a pass. Each call has its own settings and its own way to name types, and all calls share
the names, the source and the graph of the pass. Through every run a key keeps its name and the
source keeps its indent.
-/
namespace Injector.Pass

section Calls

/-- One call during a pass. A call that is not writable finds the source closed. -/
structure Call where
  settings : Settings
  sourceName : JavaType → Except UnnameableType Text
  writable : Bool
  step : Step

def Call.frame (call : Call) : Frame :=
  ⟨call.settings, fun type => (call.sourceName type).mapError UnnameableType.toError,
    if call.writable then append else refuse⟩

/-- The answer to a call, and the pass after it. -/
def perform (pass : Pass) (call : Call) : Except GenerationError Outcome × Pass :=
  pass.step call.frame call.step

def after (pass : Pass) : List Call → Pass
  | [] => pass
  | call :: rest => after (pass.perform call).2 rest

/-- Some calls with their answers, in order. -/
def trace (pass : Pass) : List Call → List (Call × Except GenerationError Outcome)
  | [] => []
  | call :: rest => (call, (pass.perform call).1) :: trace (pass.perform call).2 rest

theorem Call.typeNames_frame (call : Call) (binding : ProviderBinding) :
    binding.typeNames call.frame.sourceName =
      (binding.typeNames call.sourceName).mapError UnnameableType.toError :=
  ProviderBinding.typeNames_mapError UnnameableType.toError call.sourceName binding

theorem Call.writeMethod_answer (call : Call) (signature body : Text) (source : MethodSource) :
    (call.frame.writeMethod signature body source).1 =
      if call.writable then .ok () else .error .unwritable := by
  rw [frame]
  cases call.writable <;> rfl

theorem Call.writeMethod_indent (call : Call) (signature body : Text) (source : MethodSource) :
    (call.frame.writeMethod signature body source).2.indent = source.indent := by
  rw [frame]
  cases call.writable <;> rfl

end Calls

section Effects

/-- What one step can do at most to the names and the source: one name is asked for, and one
method is written. -/
structure StepsTo (frame : Frame) (before after : Pass) : Prop where
  names : after.names = before.names ∨ ∃ key, after.names = (before.names.request key).2
  source : after.source = before.source ∨
    ∃ signature body, after.source = (frame.writeMethod signature body before.source).2

theorem stepsTo_emit (frame : Frame) (binding : ProviderBinding) (signature : Text)
    (pass : Pass) : StepsTo frame pass (pass.emit frame binding signature).2 := by
  have names := ProviderBinding.emit_names
    ⟨frame.sourceName, AccessorNames.request, frame.writeMethod⟩ binding signature pass.names
    pass.source
  have source := ProviderBinding.emit_source
    ⟨frame.sourceName, AccessorNames.request, frame.writeMethod⟩ binding signature pass.names
    pass.source
  constructor
  · exact names.imp_right fun one => ⟨binding.target, one⟩
  · exact source.imp_right fun ⟨body, one⟩ => ⟨signature, body, one⟩

theorem stepsTo_step (frame : Frame) (pass : Pass) (step : Step) :
    StepsTo frame pass (pass.step frame step).2 := by
  cases step with
  | name key => exact ⟨.inr ⟨key, rfl⟩, .inl rfl⟩
  | write signature body => exact ⟨.inl rfl, .inr ⟨signature, body, rfl⟩⟩
  | emit key signature =>
      simp only [Pass.step]
      cases ProviderBinding.ofKey key with
      | error failure => exact ⟨.inl rfl, .inl rfl⟩
      | ok binding => exact stepsTo_emit frame binding signature pass
  | request key signature =>
      simp only [Pass.step]
      rcases frame.settings.implicitBinding? key with _ | _ | binding
      · exact ⟨.inl rfl, .inl rfl⟩
      · exact ⟨.inl rfl, .inl rfl⟩
      · obtain ⟨names, source⟩ := stepsTo_emit frame binding signature (pass.add binding)
        exact ⟨names, source⟩
  | bind key =>
      simp only [Pass.step]
      cases ProviderBinding.ofKey key <;> exact ⟨.inl rfl, .inl rfl⟩
  | depend dependency => exact ⟨.inl rfl, .inl rfl⟩
  | contains key => exact ⟨.inl rfl, .inl rfl⟩
  | dependenciesOf key => exact ⟨.inl rfl, .inl rfl⟩

theorem keeps_perform (pass : Pass) (call : Call) :
    pass.names.Keeps (pass.perform call).2.names := by
  obtain none | ⟨key, one⟩ := (stepsTo_step call.frame pass call.step).names
  · rw [perform, none]
    exact .refl _
  · rw [perform, one]
    exact AccessorNames.keeps_request pass.names key

theorem indent_perform (pass : Pass) (call : Call) :
    (pass.perform call).2.source.indent = pass.source.indent := by
  obtain none | ⟨signature, body, one⟩ := (stepsTo_step call.frame pass call.step).source
  · rw [perform, none]
  · rw [perform, one, call.writeMethod_indent]

theorem keeps_after (pass : Pass) (calls : List Call) :
    pass.names.Keeps (pass.after calls).names := by
  induction calls generalizing pass with
  | nil => exact .refl _
  | cons call rest ih => exact (keeps_perform pass call).trans (ih _)

theorem indent_after (pass : Pass) (calls : List Call) :
    (pass.after calls).source.indent = pass.source.indent := by
  induction calls generalizing pass with
  | nil => rfl
  | cons call rest ih => exact (ih _).trans (indent_perform pass call)

end Effects

end Injector.Pass
