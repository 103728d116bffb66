import Injector.Proofs.AccessorNames.Request
/-!
The search for a free name, turn by turn. The names that are tried differ, so no more turns are
made than there are names in use, and the counter stays as small as that.
-/
namespace Injector.AccessorNames

section Turns

/-- A search for a free name: the name that is tried now, and the number for the next one. -/
structure Search where
  name : Text
  counter : Nat

/-- What one turn of a search comes to. -/
inductive Turn where
  | found (name : Text)
  | again (search : Search)
  /-- The counter is at its limit. -/
  | overflow

/-- The bare name is tried first, and the numbers begin at two. -/
def Search.first (base : Text) : Search :=
  ⟨base, 2⟩

/-- A name in use is followed by a numbered one. No number above the limit can be counted. -/
def Search.turn (limit : Nat) (used : List Text) (base : Text) (search : Search) : Turn :=
  if used.contains search.name then
    if search.counter < limit then
      .again ⟨base ++ '_' :: Text.decimal search.counter, search.counter + 1⟩
    else .overflow
  else .found search.name

/-- The search after some turns, unless it has ended by then. -/
def Search.after (limit : Nat) (used : List Text) (base : Text) : Nat → Option Search
  | 0 => some (.first base)
  | turns + 1 =>
      match (after limit used base turns).map (turn limit used base) with
      | some (.again search) => some search
      | _ => none

end Turns

namespace Search

variable {limit k : Nat} {used : List Text} {base : Text}

theorem turn_of_not_mem {search : Search} (free : search.name ∉ used) :
    search.turn limit used base = .found search.name := by
  rw [turn, if_neg (mt List.contains_iff_mem.mp free)]

theorem turn_candidate (taken : candidate base k ∈ used) (room : k + 2 < limit) :
    turn limit used base ⟨candidate base k, k + 2⟩ = .again ⟨candidate base (k + 1), k + 3⟩ := by
  rw [turn, if_pos (List.contains_iff_mem.mpr taken), if_pos room, candidate]

/-- As long as all candidates are taken, the search tries them one by one. -/
theorem after_eq_some (taken : ∀ j < k, candidate base j ∈ used) (room : k + 2 ≤ limit) :
    after limit used base k = some ⟨candidate base k, k + 2⟩ := by
  induction k with
  | zero => rfl
  | succ k ih =>
      have before := ih (fun j lt => taken j (Nat.lt_succ_of_lt lt)) (by omega)
      have next := turn_candidate (taken k k.lt_succ_self) room
      rw [after, before, Option.map_some, next]

/-- Nothing comes after a free name. -/
theorem after_eq_none {turns : Nat} {search : Search}
    (found : after limit used base turns = some search) (free : search.name ∉ used)
    (later : turns < k) : after limit used base k = none := by
  induction k, later using Nat.le_induction with
  | base => rw [after, found, Option.map_some, turn_of_not_mem free]
  | succ k _ ih => rw [after, ih, Option.map_none]

variable (room : collisions used base + 2 ≤ limit)
include room

/-- A search whose counter has room ends when it has tried all candidates that collide. -/
theorem after_collisions :
    after limit used base (collisions used base) =
      some ⟨freshName used base, collisions used base + 2⟩ :=
  after_eq_some (collisions_spec used base).2 room

theorem le_collisions_of_after {search : Search} (made : after limit used base k = some search) :
    k ≤ collisions used base ∧ search.counter ≤ collisions used base + 2 := by
  obtain ⟨free, taken⟩ := collisions_spec used base
  have within : k ≤ collisions used base := by
    by_contra later
    rw [after_eq_none (after_collisions room) free (Nat.lt_of_not_le later)] at made
    cases made
  rw [after_eq_some (fun j lt => taken j (Nat.lt_of_lt_of_le lt within)) (by omega)] at made
  obtain rfl := Option.some.inj made
  exact ⟨within, Nat.add_le_add_right within 2⟩

end Search

/-- A key that has a name gets that name, and nothing changes. Any other key gets the first of the
bare name and the numbered names that is not in use. The search for it makes no more turns than
there are names in use, and at no time is its counter more than two above their number, so a counter
that can hold this much does not overflow: one with the limit `2 ^ 31 - 1` is large enough for
`2 ^ 31 - 3` names. -/
theorem request_ends_search (names : AccessorNames) (key : Key) :
    (∀ name, names.name? key = some name → names.request key = (name, names)) ∧
      (names.name? key = none →
        let base := baseName names.start key
        let inUse := names.used.toFinset.card
        ∃ turns ≤ inUse,
          ((names.request key).1 = candidate base turns ∧ candidate base turns ∉ names.used ∧
            ∀ k < turns, candidate base k ∈ names.used) ∧
          ∀ limit ≥ inUse + 2,
            (∃ last, Search.after limit names.used base turns = some last ∧
              last.turn limit names.used base = .found (names.request key).1) ∧
            ∀ k search, Search.after limit names.used base k = some search →
              k ≤ turns ∧ search.counter ≤ inUse + 2) := by
  refine ⟨fun name => request_of_some, fun unnamed => ?_⟩
  obtain ⟨free, taken⟩ := collisions_spec names.used (baseName names.start key)
  have few := le_card_of_taken taken
  have answer : (names.request key).1 = freshName names.used (baseName names.start key) := by
    rw [request_of_none unnamed]
  refine ⟨_, few, ⟨answer, free, taken⟩, fun limit enough => ?_⟩
  have room : collisions names.used (baseName names.start key) + 2 ≤ limit := by omega
  constructor
  · rw [answer]
    exact ⟨_, Search.after_collisions room, Search.turn_of_not_mem free⟩
  · intro k search made
    obtain ⟨within, counted⟩ := Search.le_collisions_of_after room made
    exact ⟨within, Nat.le_trans counted (Nat.add_le_add_right few 2)⟩

end Injector.AccessorNames
