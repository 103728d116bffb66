import Injector.Proofs.AccessorNames.Request
import Injector.Proofs.ProviderBinding.Emission
import Mathlib.Data.Finset.Card
/-!
A ledger of names: every request that is made, by itself or in the course of an emission, is
written down with its answer. Answers tell keys apart at all times, and no answer is taken back.
-/
namespace Injector

/-- The names given so far, and the requests with their answers, in order. -/
structure Ledger where
  names : AccessorNames
  answers : List (Key × Text)

namespace Ledger

def startingWith (start : Text) : Ledger :=
  ⟨.startingWith start, []⟩

/-- A request whose answer is written down. -/
def request (key : Key) (ledger : Ledger) : Text × Ledger :=
  let (name, names) := ledger.names.request key
  (name, ⟨names, ledger.answers ++ [(key, name)]⟩)

inductive Use (ε ω : Type) where
  | request (key : Key)
  /-- An emission, with a way to name types and a way to write methods of its own. -/
  | emit (binding : ProviderBinding) (signature : Text)
      (sourceName : JavaType → Except ε Text)
      (writeMethod : Text → Text → ω → Except ε Unit × ω) (source : ω)

variable {ε ω : Type}

def apply (ledger : Ledger) : Use ε ω → Ledger
  | .request key => (ledger.request key).2
  | .emit binding signature sourceName writeMethod source =>
      (binding.emit ⟨sourceName, request, writeMethod⟩ signature ledger source).2.1

/-- The ledger after some uses of names, in order. -/
def run (start : Text) (uses : List (Use ε ω)) : Ledger :=
  uses.foldl apply (startingWith start)

/-- The names are consistent, and the answers are the names of the keys that have one. -/
structure Sound (ledger : Ledger) : Prop where
  consistent : ledger.names.Consistent
  mem_answers : ∀ key name,
    (key, name) ∈ ledger.answers ↔ ledger.names.name? key = some name

theorem sound_startingWith (start : Text) : (startingWith start).Sound where
  consistent := AccessorNames.consistent_startingWith start
  mem_answers _ _ := by simp [startingWith, AccessorNames.startingWith, AccessorNames.name?]

theorem Sound.request {ledger : Ledger} (h : ledger.Sound) (key : Key) :
    (ledger.request key).2.Sound where
  consistent := h.consistent.request key
  mem_answers other name := by
    have self := AccessorNames.name?_request_self ledger.names key
    simp only [Ledger.request, List.mem_append, List.mem_singleton, Prod.mk.injEq, h.mem_answers]
    by_cases same : other = key
    · subst same
      rw [self, Option.some.injEq]
      constructor
      · rintro (found | ⟨_, rfl⟩)
        · exact Option.some.inj (self.symm.trans (AccessorNames.keeps_request _ _ _ _ found))
        · rfl
      · exact fun same => .inr ⟨rfl, same.symm⟩
    · simp only [AccessorNames.name?_request_of_ne same, same, false_and, or_false]

/-- A use of names is one request or none. -/
theorem apply_cases (ledger : Ledger) (use : Use ε ω) :
    ledger.apply use = ledger ∨ ∃ key, ledger.apply use = (ledger.request key).2 := by
  cases use with
  | request key => exact .inr ⟨key, rfl⟩
  | emit binding signature sourceName writeMethod source =>
      rcases ProviderBinding.emit_names ⟨sourceName, Ledger.request, writeMethod⟩ binding signature
        ledger source with none | one
      · exact .inl none
      · exact .inr ⟨binding.target, one⟩

/-- Writing requests down changes nothing about the names. -/
theorem names_apply (ledger : Ledger) (use : Use ε ω) :
    (ledger.apply use).names =
      match use with
      | .request key => (ledger.names.request key).2
      | .emit binding signature sourceName writeMethod source =>
          (binding.emit ⟨sourceName, AccessorNames.request, writeMethod⟩ signature ledger.names
            source).2.1 := by
  cases use with
  | request key => rfl
  | emit binding signature sourceName writeMethod source =>
      simp only [apply]
      cases h : binding.typeNames sourceName with
      | error failure => rw [ProviderBinding.emit_of_error h, ProviderBinding.emit_of_error h]
      | ok found =>
          rw [ProviderBinding.emit_of_ok h, ProviderBinding.emit_of_ok h]
          rfl

theorem Sound.apply {ledger : Ledger} (h : ledger.Sound) (use : Use ε ω) :
    (ledger.apply use).Sound := by
  rcases apply_cases ledger use with none | ⟨key, one⟩
  · rw [none]
    exact h
  · rw [one]
    exact h.request key

theorem keeps_apply (ledger : Ledger) (use : Use ε ω) :
    ledger.names.Keeps (ledger.apply use).names := by
  rcases apply_cases ledger use with none | ⟨key, one⟩
  · rw [none]
    exact .refl _
  · rw [one]
    exact AccessorNames.keeps_request ledger.names key

theorem run_concat (start : Text) (uses : List (Use ε ω)) (use : Use ε ω) :
    run start (uses ++ [use]) = (run start uses).apply use := by
  rw [run, List.foldl_append]
  rfl

theorem sound_run (start : Text) (uses : List (Use ε ω)) : (run start uses).Sound := by
  induction uses using List.reverseRecOn with
  | nil => exact sound_startingWith start
  | append_singleton uses use ih =>
      rw [run_concat]
      exact ih.apply use

theorem drawn_run (start : Text) (uses : List (Use ε ω)) :
    (run start uses).names.Drawn start := by
  induction uses using List.reverseRecOn with
  | nil => exact AccessorNames.drawn_startingWith start
  | append_singleton uses use ih =>
      rw [run_concat]
      rcases apply_cases (run start uses) use with none | ⟨key, one⟩
      · rw [none]
        exact ih
      · rw [one]
        exact ih.request key

theorem exists_candidate_of_mem_answers {start : Text} {uses : List (Use ε ω)} {answer : Key × Text}
    (h : answer ∈ (run start uses).answers) :
    ∃ k, answer.2 = AccessorNames.candidate (AccessorNames.baseName start answer.1) k :=
  (drawn_run start uses).candidate _ _ (((sound_run start uses).mem_answers _ _).mp h)

theorem keeps_run (start : Text) (uses more : List (Use ε ω)) :
    (run start uses).names.Keeps (run start (uses ++ more)).names := by
  induction more using List.reverseRecOn with
  | nil =>
      rw [List.append_nil]
      exact .refl _
  | append_singleton more use ih =>
      rw [← List.append_assoc, run_concat]
      exact ih.trans (keeps_apply _ use)

theorem Sound.answers_eq_iff {ledger : Ledger} (h : ledger.Sound) {a b : Key × Text}
    (memA : a ∈ ledger.answers) (memB : b ∈ ledger.answers) : a.2 = b.2 ↔ a.1 = b.1 := by
  obtain ⟨key, name⟩ := a
  obtain ⟨other, otherName⟩ := b
  have found := (h.mem_answers key name).mp memA
  have otherFound := (h.mem_answers other otherName).mp memB
  constructor
  · rintro rfl
    exact h.consistent.key_unique found otherFound
  · rintro rfl
    exact Option.some.inj (found.symm.trans otherFound)

/-- There is one entry for each key that was asked for. -/
theorem Sound.size_eq {ledger : Ledger} (h : ledger.Sound) :
    ledger.names.size = (ledger.answers.map (·.1)).toFinset.card := by
  have same : (ledger.names.byKey.map (·.1)).toFinset = (ledger.answers.map (·.1)).toFinset := by
    ext key
    simp only [List.mem_toFinset, List.mem_map, Prod.exists, exists_and_right, exists_eq_right,
      h.mem_answers, h.consistent.mem_byKey_iff]
  rw [AccessorNames.size, ← same, List.toFinset_card_of_nodup h.consistent.keys_nodup,
    List.length_map]

section Requests

variable {ledger : Ledger} {key : Key}

/-- The keys that were asked for, in order. -/
def requests (ledger : Ledger) : List Key :=
  ledger.answers.map (·.1)

theorem answers_request (ledger : Ledger) (key : Key) :
    (ledger.request key).2.answers = ledger.answers ++ [(key, (ledger.names.request key).1)] :=
  rfl

theorem requests_request (ledger : Ledger) (key : Key) :
    (ledger.request key).2.requests = ledger.requests ++ [key] :=
  List.map_append

theorem mem_requests : key ∈ ledger.requests ↔ ∃ name, (key, name) ∈ ledger.answers := by
  rw [requests, List.mem_map]
  constructor
  · rintro ⟨⟨_, name⟩, mem, rfl⟩
    exact ⟨name, mem⟩
  · rintro ⟨name, mem⟩
    exact ⟨_, mem, rfl⟩

theorem Sound.mem_used_iff (sound : ledger.Sound) (name : Text) :
    name ∈ ledger.names.used ↔ ∃ key, (key, name) ∈ ledger.answers := by
  rw [sound.consistent.used_eq, List.mem_map]
  simp only [sound.mem_answers, ← sound.consistent.mem_byKey_iff, Prod.exists, exists_eq_right]

theorem Sound.name?_eq_none (sound : ledger.Sound) (new : key ∉ ledger.requests) :
    ledger.names.name? key = none := by
  cases found : ledger.names.name? key with
  | none => rfl
  | some name => exact absurd (mem_requests.mpr ⟨name, (sound.mem_answers key name).mpr found⟩) new

end Requests

/-- After any uses of names that were given in any order, two requests had the same answer exactly
if they were made for the same key. The names in use are those of the keys, no two keys share one,
there are as many as keys were asked for, and whatever happens next, each key keeps its name. -/
theorem run_tells_keys_apart (start : Text) (uses : List (Use ε ω)) :
    (∀ a ∈ (run start uses).answers, ∀ b ∈ (run start uses).answers, a.2 = b.2 ↔ a.1 = b.1) ∧
      (∀ name, name ∈ (run start uses).names.used ↔
        name ∈ (run start uses).names.byKey.map (·.2)) ∧
      (∀ a ∈ (run start uses).names.byKey, ∀ b ∈ (run start uses).names.byKey,
        a.2 = b.2 → a = b) ∧
      (run start uses).names.size = ((run start uses).answers.map (·.1)).toFinset.card ∧
      (∀ key name, (key, name) ∈ (run start uses).answers ↔
        (run start uses).names.name? key = some name) ∧
      ∀ more key name, (run start uses).names.name? key = some name →
        (run start (uses ++ more)).names.name? key = some name := by
  have h := sound_run start uses
  refine ⟨fun a memA b memB => h.answers_eq_iff memA memB, ?_, ?_, h.size_eq, h.mem_answers,
    keeps_run start uses⟩
  · intro name
    rw [h.consistent.used_eq]
  · intro a memA b memB same
    exact List.inj_on_of_nodup_map h.consistent.names_nodup memA memB same

end Ledger

end Injector
