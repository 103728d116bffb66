import Injector.AccessorNames
import Injector.Proofs.Entries
import Mathlib.Data.Finset.Card
import Mathlib.Logic.Function.Basic
/-!
What a request does to the names. It keeps the name of every key, and it keeps the names in use
the same as the names of keys, so that a key that asks for the first time gets a name of its own,
one of those that it may get. The search for a free name ends: the names that are tried differ, so
one more of them than there are names in use cannot all be in use.
-/
namespace Injector

theorem Text.decimal_injective : Function.Injective Text.decimal :=
  Function.LeftInverse.injective fun _ => Nat.ofDigitChars_ten_toDigits

namespace AccessorNames

section Search

theorem candidate_injective (base : Text) : Function.Injective (candidate base) := by
  intro i j same
  cases i with
  | zero =>
      cases j with
      | zero => rfl
      | succ j => simp [candidate] at same
  | succ i =>
      cases j with
      | zero => simp [candidate] at same
      | succ j =>
          simp only [candidate, List.append_cancel_left_eq, List.cons.injEq, true_and] at same
          have := Text.decimal_injective same
          omega

/-- No more candidates in a row are taken than there are names in use. -/
theorem le_card_of_taken {used : List Text} {base : Text} {n : Nat}
    (taken : ∀ k < n, candidate base k ∈ used) : n ≤ used.toFinset.card := by
  have within : ∀ k ∈ Finset.range n, candidate base k ∈ used.toFinset := by
    intro k mem
    exact List.mem_toFinset.mpr (taken k (Finset.mem_range.mp mem))
  calc
    n = (Finset.range n).card := (Finset.card_range n).symm
    _ ≤ used.toFinset.card :=
        Finset.card_le_card_of_injOn (candidate base) within (candidate_injective base).injOn

theorem exists_candidate_not_mem (used : List Text) (base : Text) :
    ∃ k ≤ used.length, candidate base k ∉ used := by
  by_contra all
  push Not at all
  have few := le_card_of_taken fun k (lt : k < used.length + 1) => all k (Nat.le_of_lt_succ lt)
  have bound := List.toFinset_card_le used
  omega

/-- The collisions end at the first candidate that is free. -/
theorem collisions_spec (used : List Text) (base : Text) :
    candidate base (collisions used base) ∉ used ∧
      ∀ k < collisions used base, candidate base k ∈ used := by
  cases found : (List.range used.length).find? fun k => candidate base k ∉ used with
  | some k =>
      have same : collisions used base = k := by rw [collisions, found, Option.getD_some]
      obtain ⟨free, _, taken⟩ := List.find?_range_eq_some.mp found
      rw [same]
      exact ⟨of_decide_eq_true free, fun j lt => by simpa using taken j lt⟩
  | none =>
      have same : collisions used base = used.length := by
        rw [collisions, found, Option.getD_none]
      have taken : ∀ k < used.length, candidate base k ∈ used := by
        intro k lt
        simpa using List.find?_range_eq_none.mp found k lt
      obtain ⟨k, le, free⟩ := exists_candidate_not_mem used base
      obtain rfl : k = used.length := by
        by_contra differ
        exact free (taken k (by omega))
      rw [same]
      exact ⟨free, taken⟩

theorem collisions_eq {used : List Text} {base : Text} {k : Nat}
    (h : ∀ j, candidate base j ∈ used ↔ j < k) : collisions used base = k := by
  obtain ⟨free, taken⟩ := collisions_spec used base
  rw [h] at free
  by_contra differ
  have before := (h k).mp (taken k (by omega))
  omega

theorem freshName_not_mem (used : List Text) (base : Text) : freshName used base ∉ used :=
  (collisions_spec used base).1

end Search

variable {names : AccessorNames}

section Requests

theorem request_of_some {key : Key} {name : Text} (h : names.name? key = some name) :
    names.request key = (name, names) := by
  rw [request, h]

theorem request_of_none {key : Key} (h : names.name? key = none) :
    names.request key =
      (freshName names.used (baseName names.start key),
        { names with
          byKey := (key, freshName names.used (baseName names.start key)) :: names.byKey
          used := freshName names.used (baseName names.start key) :: names.used }) := by
  rw [request, h]

theorem name?_request_self (names : AccessorNames) (key : Key) :
    (names.request key).2.name? key = some (names.request key).1 := by
  cases h : names.name? key with
  | some name => rw [request_of_some h, h]
  | none => simp only [request_of_none h, name?, List.lookup_cons_self]

theorem name?_request_of_ne {key other : Key} (h : other ≠ key) :
    (names.request key).2.name? other = names.name? other := by
  cases hk : names.name? key with
  | some name => rw [request_of_some hk]
  | none => simp only [request_of_none hk, name?, List.lookup_cons, beq_false_of_ne h]

/-- Later names have each key under the name that it has in earlier ones. -/
def Keeps (earlier later : AccessorNames) : Prop :=
  ∀ key name, earlier.name? key = some name → later.name? key = some name

theorem Keeps.refl (names : AccessorNames) : names.Keeps names :=
  fun _ _ h => h

theorem Keeps.trans {first second third : AccessorNames} (h : first.Keeps second)
    (h' : second.Keeps third) : first.Keeps third :=
  fun key name found => h' key name (h key name found)

theorem keeps_request (names : AccessorNames) (key : Key) :
    names.Keeps (names.request key).2 := by
  intro other name found
  by_cases same : other = key
  · subst same
    rw [request_of_some found]
    exact found
  · rw [name?_request_of_ne same]
    exact found

end Requests

section Consistency

/-- The names in use are the names of keys, each key has one entry, and no two keys share a name. -/
structure Consistent (names : AccessorNames) : Prop where
  used_eq : names.used = names.byKey.map (·.2)
  keys_nodup : (names.byKey.map (·.1)).Nodup
  names_nodup : (names.byKey.map (·.2)).Nodup

theorem consistent_startingWith (start : Text) : (startingWith start).Consistent :=
  ⟨rfl, List.nodup_nil, List.nodup_nil⟩

theorem not_mem_keys_of_none {key : Key} (h : names.name? key = none) :
    key ∉ names.byKey.map (·.1) := by
  intro mem
  obtain ⟨entry, memEntry, same⟩ := List.mem_map.mp mem
  have differ := List.lookup_eq_none_iff.mp h entry memEntry
  exact bne_iff_ne.mp differ same.symm

theorem mem_byKey_of_some {key : Key} {name : Text} (h : names.name? key = some name) :
    (key, name) ∈ names.byKey := by
  obtain ⟨_, _, same, _⟩ := List.lookup_eq_some_iff.mp h
  rw [same]
  exact List.mem_append_right _ List.mem_cons_self

theorem Consistent.request (h : names.Consistent) (key : Key) :
    (names.request key).2.Consistent := by
  cases hk : names.name? key with
  | some name =>
      rw [request_of_some hk]
      exact h
  | none =>
      have free := freshName_not_mem names.used (baseName names.start key)
      rw [request_of_none hk]
      refine ⟨?_, ?_, ?_⟩
      · simp only [List.map_cons, h.used_eq]
      · exact List.nodup_cons.mpr ⟨not_mem_keys_of_none hk, h.keys_nodup⟩
      · refine List.nodup_cons.mpr ⟨?_, h.names_nodup⟩
        rw [← h.used_eq]
        exact free

theorem Consistent.mem_byKey_iff (h : names.Consistent) (key : Key) (name : Text) :
    (key, name) ∈ names.byKey ↔ names.name? key = some name :=
  (Entries.lookup_eq_some_iff_mem h.keys_nodup).symm

theorem Consistent.key_unique (h : names.Consistent) {key other : Key} {name : Text}
    (found : names.name? key = some name) (found' : names.name? other = some name) :
    key = other := by
  exact congrArg Prod.fst (List.inj_on_of_nodup_map h.names_nodup (mem_byKey_of_some found)
    (mem_byKey_of_some found') rfl)

end Consistency

section Drawing

/-- The names have some start, and each of them is a candidate of its key. -/
structure Drawn (start : Text) (names : AccessorNames) : Prop where
  start_eq : names.start = start
  candidate : ∀ key name, names.name? key = some name →
    ∃ k, name = AccessorNames.candidate (baseName start key) k

theorem drawn_startingWith (start : Text) : (startingWith start).Drawn start where
  start_eq := rfl
  candidate key name found := by cases found

theorem Drawn.request {start : Text} (h : names.Drawn start) (key : Key) :
    (names.request key).2.Drawn start := by
  cases known : names.name? key with
  | some name =>
      rw [request_of_some known]
      exact h
  | none =>
      constructor
      · rw [request_of_none known]
        exact h.start_eq
      · intro other name found
        by_cases same : other = key
        · subst same
          rw [name?_request_self, request_of_none known, h.start_eq] at found
          exact ⟨_, (Option.some.inj found).symm⟩
        · rw [name?_request_of_ne same] at found
          exact h.candidate other name found

end Drawing

end AccessorNames

end Injector
