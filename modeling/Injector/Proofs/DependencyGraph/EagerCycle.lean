import Injector.Proofs.DependencyGraph.Build
import Injector.Proofs.Digraph.Cycle
/-!
The test for eager cycles answers for the keys and the dependencies that were added: it finds
exactly the rings of keys in which each key needs the next one before it is made.
-/
namespace Injector

/-- Some dependency of the set must be met before its source is made. -/
def Dependency.Needs (dependencies : Finset Dependency) (source target : Key) : Prop :=
  ∃ dependency ∈ dependencies,
    dependency.source = source ∧ dependency.target = target ∧ dependency.lazy = false

section Rings

variable {α : Type} {r : α → α → Prop}

/-- A walk of at least one step, written down node by node. -/
theorem exists_walk_of_transGen {a b : α} (h : Relation.TransGen r a b) :
    ∃ n, 1 ≤ n ∧ ∃ walk : Nat → α, walk 0 = a ∧ walk n = b ∧
      ∀ i < n, r (walk i) (walk (i + 1)) := by
  induction h using Relation.TransGen.head_induction_on with
  | @single a step =>
      refine ⟨1, le_refl _, fun i => if i = 0 then a else b, rfl, rfl, ?_⟩
      intro i lt
      obtain rfl : i = 0 := by omega
      exact step
  | @head a c step _ ih =>
      obtain ⟨n, _, walk, first, last, steps⟩ := ih
      refine ⟨n + 1, by omega, fun i => i.casesOn a walk, rfl, last, ?_⟩
      intro i lt
      cases i with
      | zero =>
          change r a (walk 0)
          rw [first]
          exact step
      | succ i => exact steps i (by omega)

/-- Something is related to itself by steps exactly if it stands in a ring of steps. -/
theorem exists_transGen_self_iff_ring :
    (∃ a, Relation.TransGen r a a) ↔
      ∃ n, 1 ≤ n ∧ ∃ ring : Nat → α, ∀ i < n, r (ring i) (ring ((i + 1) % n)) := by
  constructor
  · rintro ⟨a, cycle⟩
    obtain ⟨n, positive, walk, first, last, steps⟩ := exists_walk_of_transGen cycle
    refine ⟨n, positive, walk, fun i lt => ?_⟩
    have step := steps i lt
    by_cases final : i + 1 = n
    · rw [final] at step ⊢
      rw [Nat.mod_self, first]
      rwa [last] at step
    · rwa [Nat.mod_eq_of_lt (by omega : i + 1 < n)]
  · rintro ⟨n, positive, ring, steps⟩
    have around : ∀ i, Relation.TransGen r (ring (i % n)) (ring ((i + 1) % n)) := by
      intro i
      have step := steps (i % n) (Nat.mod_lt i positive)
      rw [Nat.mod_add_mod] at step
      exact .single step
    have closed := Nat.rel_of_forall_rel_succ_of_lt (Relation.TransGen r)
      (f := fun i => ring (i % n)) around positive
    simp only [Nat.zero_mod, Nat.mod_self] at closed
    exact ⟨ring 0, closed⟩

end Rings

namespace DependencyGraph

variable {graph : DependencyGraph} {dependencies : Finset Dependency}

/-- The eager edges are the needs of keys, carried over to the nodes of the keys. -/
theorem Holds.joins_eagerEdges_iff (h : graph.Holds dependencies) (source target : Nat) :
    Digraph.Joins graph.eagerEdges source target ↔
      ∃ a b, graph.node? a = some source ∧ graph.node? b = some target ∧
        Dependency.Needs dependencies a b := by
  simp only [Digraph.Joins, eagerEdges, List.mem_map, List.mem_filter, Bool.not_eq_true',
    Prod.mk.injEq]
  constructor
  · rintro ⟨arc, ⟨mem, eager⟩, rfl, rfl⟩
    have stored := (h.mem_arcs _).mp (List.mem_map_of_mem mem)
    obtain ⟨placedSource, placedTarget⟩ := h.placed arc mem
    exact ⟨_, _, placedSource, placedTarget, arc.dependency, stored, rfl, rfl, eager⟩
  · rintro ⟨_, _, foundSource, foundTarget, dependency, mem, rfl, rfl, eager⟩
    obtain ⟨arc, memArc, rfl⟩ := List.mem_map.mp ((h.mem_arcs dependency).mpr mem)
    obtain ⟨placedSource, placedTarget⟩ := h.placed arc memArc
    exact ⟨arc, ⟨memArc, eager⟩, Option.some.inj (placedSource.symm.trans foundSource),
      Option.some.inj (placedTarget.symm.trans foundTarget)⟩

theorem Holds.exists_node?_of_needs (h : graph.Holds dependencies) {a b : Key}
    (need : Dependency.Needs dependencies a b) :
    (∃ node, graph.node? a = some node) ∧ ∃ node, graph.node? b = some node := by
  obtain ⟨dependency, mem, rfl, rfl, _⟩ := need
  obtain ⟨arc, memArc, rfl⟩ := List.mem_map.mp ((h.mem_arcs dependency).mpr mem)
  obtain ⟨source, target⟩ := h.placed arc memArc
  exact ⟨⟨_, source⟩, _, target⟩

/-- Walks along eager edges lead from the node of a key to the node of a key that it needs. -/
theorem Holds.transGen_eagerEdges_iff (h : graph.Holds dependencies) (source target : Nat) :
    Relation.TransGen (Digraph.Joins graph.eagerEdges) source target ↔
      ∃ a b, graph.node? a = some source ∧ graph.node? b = some target ∧
        Relation.TransGen (Dependency.Needs dependencies) a b := by
  constructor
  · intro walk
    induction walk with
    | single step =>
        obtain ⟨a, b, foundA, foundB, need⟩ := (h.joins_eagerEdges_iff _ _).mp step
        exact ⟨a, b, foundA, foundB, .single need⟩
    | tail _ step ih =>
        obtain ⟨a, b, foundA, foundB, needs⟩ := ih
        obtain ⟨b', c, foundB', foundC, need⟩ := (h.joins_eagerEdges_iff _ _).mp step
        have same : b = b' := Option.some.inj
          (((h.indexed _ _).mp foundB).symm.trans ((h.indexed _ _).mp foundB'))
        subst same
        exact ⟨a, c, foundA, foundC, needs.tail need⟩
  · rintro ⟨a, b, foundA, foundB, needs⟩
    induction needs generalizing target with
    | single need => exact .single ((h.joins_eagerEdges_iff _ _).mpr ⟨a, _, foundA, foundB, need⟩)
    | tail _ need ih =>
        obtain ⟨node, found⟩ := (h.exists_node?_of_needs need).1
        exact (ih node found).tail
          ((h.joins_eagerEdges_iff _ _).mpr ⟨_, _, found, foundB, need⟩)

theorem Holds.hasEagerCycle_iff (h : graph.Holds dependencies) :
    graph.hasEagerCycle = true ↔
      ∃ key, Relation.TransGen (Dependency.Needs dependencies) key key := by
  rw [hasEagerCycle, Digraph.hasCycle_iff]
  constructor
  · rintro ⟨node, cycle⟩
    obtain ⟨a, b, foundA, foundB, needs⟩ := (h.transGen_eagerEdges_iff _ _).mp cycle
    have same : a = b := Option.some.inj
      (((h.indexed _ _).mp foundA).symm.trans ((h.indexed _ _).mp foundB))
    exact ⟨a, by rwa [← same] at needs⟩
  · rintro ⟨key, needs⟩
    obtain ⟨next, need, _⟩ := Relation.TransGen.head'_iff.mp needs
    obtain ⟨node, found⟩ := (h.exists_node?_of_needs need).1
    exact ⟨node, (h.transGen_eagerEdges_iff _ _).mpr ⟨key, key, found, found, needs⟩⟩

/-- There is an eager cycle exactly if some keys stand in a ring in which each key has a dependency
on the next one that was added and is not lazy. -/
theorem hasEagerCycle_iff_ring (additions : List Addition) :
    (build additions).hasEagerCycle = true ↔
      ∃ n, 1 ≤ n ∧ ∃ key : Nat → Key, ∀ i < n, ∃ dependency ∈ added additions,
        dependency.source = key i ∧ dependency.target = key ((i + 1) % n) ∧
          dependency.lazy = false :=
  (holds_build additions).hasEagerCycle_iff.trans exists_transGen_self_iff_ring

end DependencyGraph

end Injector
