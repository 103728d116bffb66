import Injector.Proofs.AccessorNames.Ledger
/-!
Names under another start. Text in front of every name neither lets names collide nor keeps them
apart, so runs with different starts go on in step: their names differ in the start alone.
-/
namespace Injector

namespace AccessorNames

section Fronts

/-- The same names with some text in front of each of them. -/
def prepend (front : Text) (names : AccessorNames) : AccessorNames where
  start := front ++ names.start
  byKey := names.byKey.map (Prod.map id (front ++ ·))
  used := names.used.map (front ++ ·)

theorem baseName_append (front start : Text) (key : Key) :
    baseName (front ++ start) key = front ++ baseName start key :=
  List.append_assoc _ _ _

theorem candidate_append (front base : Text) (k : Nat) :
    candidate (front ++ base) k = front ++ candidate base k := by
  cases k with
  | zero => rfl
  | succ k => exact List.append_assoc _ _ _

theorem append_mem_map_iff {front name : Text} {used : List Text} :
    front ++ name ∈ used.map (front ++ ·) ↔ name ∈ used :=
  List.mem_map_of_injective (List.append_right_injective front)

theorem collisions_map (front base : Text) (used : List Text) :
    collisions (used.map (front ++ ·)) (front ++ base) = collisions used base := by
  simp only [collisions, List.length_map, candidate_append, append_mem_map_iff]

theorem freshName_map (front base : Text) (used : List Text) :
    freshName (used.map (front ++ ·)) (front ++ base) = front ++ freshName used base := by
  rw [freshName, collisions_map, candidate_append, freshName]

theorem lookup_map {α β γ : Type} [BEq α] (f : β → γ) (entries : List (α × β)) (key : α) :
    (entries.map (Prod.map id f)).lookup key = (entries.lookup key).map f := by
  induction entries with
  | nil => rfl
  | cons entry rest ih =>
      obtain ⟨other, value⟩ := entry
      rw [List.map_cons, Prod.map_apply, id, List.lookup_cons, List.lookup_cons, ih]
      cases key == other <;> rfl

theorem name?_prepend (front : Text) (names : AccessorNames) (key : Key) :
    (names.prepend front).name? key = (names.name? key).map (front ++ ·) :=
  lookup_map _ _ _

/-- A request has the same effect, whatever text stands in front of the names. -/
theorem request_prepend (front : Text) (names : AccessorNames) (key : Key) :
    (names.prepend front).request key =
      Prod.map (front ++ ·) (prepend front) (names.request key) := by
  have known := name?_prepend front names key
  cases found : names.name? key with
  | some name =>
      rw [found] at known
      rw [request_of_some found, request_of_some known]
      rfl
  | none =>
      rw [found] at known
      have name : freshName (names.prepend front).used (baseName (names.prepend front).start key) =
          front ++ freshName names.used (baseName names.start key) := by
        rw [prepend, baseName_append, freshName_map]
      rw [request_of_none found, request_of_none known, name]
      rfl

theorem size_prepend (front : Text) (names : AccessorNames) :
    (names.prepend front).size = names.size :=
  List.length_map _

end Fronts

end AccessorNames

namespace Ledger

variable {ε ω : Type}

def prepend (front : Text) (ledger : Ledger) : Ledger :=
  ⟨ledger.names.prepend front, ledger.answers.map (Prod.map id (front ++ ·))⟩

theorem request_prepend (front : Text) (ledger : Ledger) (key : Key) :
    (ledger.prepend front).request key =
      Prod.map (front ++ ·) (prepend front) (ledger.request key) := by
  simp only [request, prepend, AccessorNames.request_prepend, Prod.map, List.map_append,
    List.map_singleton, id]

theorem apply_prepend (front : Text) (ledger : Ledger) (use : Use ε ω) :
    (ledger.prepend front).apply use = (ledger.apply use).prepend front := by
  cases use with
  | request key => rw [apply, request_prepend]; rfl
  | emit binding signature sourceName writeMethod source =>
      rw [apply, apply]
      -- The types decide whether the emission asks for a name, and names have no part in that.
      cases h : binding.typeNames sourceName with
      | error failure => rw [ProviderBinding.emit_of_error h, ProviderBinding.emit_of_error h]
      | ok found =>
          rw [ProviderBinding.emit_of_ok h, ProviderBinding.emit_of_ok h]
          simp only [request_prepend, Prod.map]

/-- A run with more text in its start goes the same way with this text in front of all names. -/
theorem run_append (front start : Text) (uses : List (Use ε ω)) :
    run (front ++ start) uses = (run start uses).prepend front := by
  induction uses using List.reverseRecOn with
  | nil => rfl
  | append_singleton uses use ih => rw [run_concat, run_concat, ih, apply_prepend]

theorem run_eq_prepend (start : Text) (uses : List (Use ε ω)) :
    run start uses = (run [] uses).prepend start := by
  rw [← run_append, List.append_nil]

/-- Two runs with the same uses of names, one start each, are asked for the same keys and answer with
the same texts after their starts. What comes after the start is what the key tells about itself and
the number that resolves a collision, so both runs see the same collisions and resolve them alike,
and at all times they have names for equally many keys. -/
theorem runs_differ_in_start_only (start other : Text) (uses : List (Use ε ω)) :
    ∃ rests : List (Key × Text),
      (run start uses).answers = rests.map (fun rest => (rest.1, start ++ rest.2)) ∧
        (run other uses).answers = rests.map (fun rest => (rest.1, other ++ rest.2)) ∧
        (∀ rest ∈ rests, ∃ k, rest.2 =
          AccessorNames.candidate (AccessorNames.baseName [] rest.1) k) ∧
        ∀ n, (run start (uses.take n)).names.size = (run other (uses.take n)).names.size := by
  refine ⟨(run [] uses).answers, ?_, ?_, fun rest mem => exists_candidate_of_mem_answers mem, ?_⟩
  · rw [run_eq_prepend start]
    rfl
  · rw [run_eq_prepend other]
    rfl
  · intro n
    rw [run_eq_prepend start, run_eq_prepend other]
    exact (AccessorNames.size_prepend _ _).trans (AccessorNames.size_prepend _ _).symm

end Ledger

end Injector
