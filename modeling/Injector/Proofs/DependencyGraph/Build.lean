import Injector.DependencyGraph
import Injector.Proofs.Order
import Injector.Proofs.Ranking
import Mathlib.Data.Finset.Card
import Mathlib.Data.Finset.Union
import Mathlib.Data.Set.Function
/-!
What a graph holds after any additions. The index and the nodes stay in step, and every arc lies
between the nodes of its own dependency, so a dependency that is added again is found where it was
stored first. In the end the graph depends on the set of the dependencies that were added alone.
-/
namespace Injector

/-- The keys that some dependency leads from or to. -/
def Dependency.endpoints (dependencies : Finset Dependency) : Finset Key :=
  dependencies.image (·.source) ∪ dependencies.image (·.target)

inductive Addition where
  | single (dependency : Dependency)
  /-- A binding adds all the dependencies that it reports. -/
  | binding (reported : List Dependency)

def Addition.dependencies : Addition → List Dependency
  | .single dependency => [dependency]
  | .binding reported => reported

namespace DependencyGraph

def add (graph : DependencyGraph) : Addition → DependencyGraph
  | .single dependency => graph.addDependency dependency
  | .binding reported => graph.addDependencies reported

/-- The graph after additions to the graph without nodes, in order. -/
def build (additions : List Addition) : DependencyGraph :=
  additions.foldl add empty

def added (additions : List Addition) : Finset Dependency :=
  (additions.flatMap Addition.dependencies).toFinset

/-- The index has exactly the nodes, each under the key that it holds. -/
def Indexed (graph : DependencyGraph) : Prop :=
  ∀ key node, graph.node? key = some node ↔ graph.nodes[node]? = some key

/-- Every arc lies between the nodes that the index has for the keys of its dependency. -/
def Placed (graph : DependencyGraph) : Prop :=
  ∀ arc ∈ graph.arcs, graph.node? arc.dependency.source = some arc.source ∧
    graph.node? arc.dependency.target = some arc.target

/-- The graph holds a set of dependencies, and nothing else. -/
structure Holds (graph : DependencyGraph) (dependencies : Finset Dependency) : Prop where
  indexed : graph.Indexed
  mem_nodes : ∀ key, key ∈ graph.nodes ↔ key ∈ Dependency.endpoints dependencies
  placed : graph.Placed
  mem_arcs : ∀ dependency, dependency ∈ graph.arcs.map (·.dependency) ↔ dependency ∈ dependencies
  nodup : (graph.arcs.map (·.dependency)).Nodup

variable {graph : DependencyGraph}

section Nodes

theorem Indexed.isSome_iff (h : graph.Indexed) (key : Key) :
    (graph.node? key).isSome = true ↔ key ∈ graph.nodes := by
  rw [Option.isSome_iff_exists, List.mem_iff_getElem?]
  exact exists_congr fun node => h key node

theorem Indexed.nodup (h : graph.Indexed) : graph.nodes.Nodup := by
  rw [List.nodup_iff_getElem?_ne_getElem?]
  intro i j lt inside same
  have present : graph.nodes[j]? = some graph.nodes[j] := List.getElem?_eq_getElem inside
  have first := (h _ _).mpr (same.trans present)
  have second := (h _ _).mpr present
  exact lt.ne (Option.some.inj (first.symm.trans second))

/-- Keys have the same node exactly if they are the same. -/
theorem Indexed.node_eq_iff (h : graph.Indexed) {key other : Key} {node otherNode : Nat}
    (found : graph.node? key = some node) (foundOther : graph.node? other = some otherNode) :
    node = otherNode ↔ key = other := by
  constructor
  · rintro rfl
    exact Option.some.inj (((h key node).mp found).symm.trans ((h other node).mp foundOther))
  · rintro rfl
    exact Option.some.inj (found.symm.trans foundOther)

theorem withNode_of_some {key : Key} {node : Nat} (h : graph.node? key = some node) :
    graph.withNode key = (node, graph) := by
  rw [withNode, h]

theorem withNode_of_none {key : Key} (h : graph.node? key = none) :
    graph.withNode key = (graph.nodes.length,
      { graph with
        nodes := graph.nodes ++ [key]
        index := (key, graph.nodes.length) :: graph.index }) := by
  rw [withNode, h]

@[simp] theorem withNode_arcs (key : Key) : (graph.withNode key).2.arcs = graph.arcs := by
  unfold withNode
  split <;> rfl

theorem node?_withNode_self (key : Key) :
    (graph.withNode key).2.node? key = some (graph.withNode key).1 := by
  cases h : graph.node? key with
  | some node => rw [withNode_of_some h, h]
  | none => simp only [withNode_of_none h, node?, List.lookup_cons_self]

/-- A node keeps its number. -/
theorem node?_withNode_of_some {other : Key} {node : Nat} (h : graph.node? other = some node)
    (key : Key) : (graph.withNode key).2.node? other = some node := by
  cases hk : graph.node? key with
  | some _ => rw [withNode_of_some hk, h]
  | none =>
      have differ : other ≠ key := by
        rintro rfl
        rw [h] at hk
        cases hk
      simp only [withNode_of_none hk, node?, List.lookup_cons, beq_false_of_ne differ]
      exact h

theorem Indexed.mem_withNode_nodes (h : graph.Indexed) (key other : Key) :
    other ∈ (graph.withNode key).2.nodes ↔ other = key ∨ other ∈ graph.nodes := by
  cases hk : graph.node? key with
  | some node =>
      have present : key ∈ graph.nodes := (h.isSome_iff key).mp (by rw [hk, Option.isSome_some])
      rw [withNode_of_some hk]
      exact ⟨.inr, fun mem => mem.elim (fun same => same ▸ present) id⟩
  | none => simp only [withNode_of_none hk, List.mem_append, List.mem_singleton, or_comm]

theorem getElem?_concat_eq_some_iff {α : Type} {items : List α} {last item : α} {i : Nat} :
    (items ++ [last])[i]? = some item ↔
      items[i]? = some item ∨ i = items.length ∧ last = item := by
  rcases Nat.lt_trichotomy i items.length with lt | same | gt
  · simp only [List.getElem?_append_left lt, lt.ne, false_and, or_false]
  · simp only [same, List.getElem?_concat_length, List.getElem?_eq_none (le_refl _),
      Option.some.injEq, reduceCtorEq, true_and, false_or]
  · have outside : (items ++ [last]).length ≤ i := by
      rw [List.length_append, List.length_singleton]
      exact gt
    simp only [List.getElem?_eq_none outside, List.getElem?_eq_none gt.le, gt.ne', reduceCtorEq,
      false_and, or_false]

/-- A new node gets the next number in the index as well as among the nodes. -/
theorem Indexed.withNode (h : graph.Indexed) (key : Key) : (graph.withNode key).2.Indexed := by
  cases hk : graph.node? key with
  | some node =>
      rw [withNode_of_some hk]
      exact h
  | none =>
      intro other node
      simp only [withNode_of_none hk, node?, List.lookup_cons, getElem?_concat_eq_some_iff,
        ← h other node]
      by_cases same : other = key
      · subst same
        rw [node?] at hk
        simp only [BEq.rfl, hk, Option.some.injEq, reduceCtorEq, false_or, and_true, eq_comm]
      · simp only [beq_false_of_ne same, Ne.symm same, and_false, or_false]

end Nodes

section Arcs

/-- Looking between the two nodes of an arc is looking for the arc itself. -/
theorem withArc_eq (arc : Arc) :
    graph.withArc arc =
      if arc ∈ graph.arcs then graph else { graph with arcs := graph.arcs ++ [arc] } := by
  have stored : ((graph.arcsBetween arc.source arc.target).any
      fun other => other.dependency == arc.dependency) = true ↔ arc ∈ graph.arcs := by
    simp only [arcsBetween, List.any_eq_true, List.mem_filter, Bool.and_eq_true, beq_iff_eq]
    constructor
    · rintro ⟨⟨_, _, _⟩, ⟨mem, rfl, rfl⟩, rfl⟩
      exact mem
    · exact fun mem => ⟨arc, ⟨mem, rfl, rfl⟩, rfl⟩
  simp only [withArc, stored]

theorem endpoints_insert (dependency : Dependency) (dependencies : Finset Dependency)
    (key : Key) :
    key ∈ Dependency.endpoints (insert dependency dependencies) ↔
      key = dependency.target ∨ key = dependency.source ∨
        key ∈ Dependency.endpoints dependencies := by
  simp only [Dependency.endpoints, Finset.image_insert, Finset.mem_union, Finset.mem_insert]
  tauto

/-- A dependency that is stored at all is stored between the nodes of its keys. -/
theorem Placed.mem_of_stored (h : graph.Placed) {arc : Arc}
    (source : graph.node? arc.dependency.source = some arc.source)
    (target : graph.node? arc.dependency.target = some arc.target)
    (stored : arc.dependency ∈ graph.arcs.map (·.dependency)) : arc ∈ graph.arcs := by
  obtain ⟨other, mem, same⟩ := List.mem_map.mp stored
  obtain ⟨otherSource, otherTarget⟩ := h other mem
  rw [same] at otherSource otherTarget
  have sameSource := Option.some.inj (otherSource.symm.trans source)
  have sameTarget := Option.some.inj (otherTarget.symm.trans target)
  obtain ⟨_, _, _⟩ := other
  obtain ⟨_, _, _⟩ := arc
  subst same sameSource sameTarget
  exact mem

theorem Placed.withNode (h : graph.Placed) (key : Key) : (graph.withNode key).2.Placed := by
  intro arc mem
  rw [withNode_arcs] at mem
  obtain ⟨source, target⟩ := h arc mem
  exact ⟨node?_withNode_of_some source key, node?_withNode_of_some target key⟩

/-- An arc between the nodes of its dependency is added unless its dependency is stored already. -/
theorem Holds.withArc {dependencies : Finset Dependency} {arc : Arc} (indexed : graph.Indexed)
    (nodes : ∀ key, key ∈ graph.nodes ↔
      key ∈ Dependency.endpoints (insert arc.dependency dependencies))
    (placed : graph.Placed)
    (stored : ∀ dependency, dependency ∈ graph.arcs.map (·.dependency) ↔
      dependency ∈ dependencies)
    (nodup : (graph.arcs.map (·.dependency)).Nodup)
    (source : graph.node? arc.dependency.source = some arc.source)
    (target : graph.node? arc.dependency.target = some arc.target) :
    (graph.withArc arc).Holds (insert arc.dependency dependencies) := by
  rw [withArc_eq]
  split
  next mem =>
    have known : arc.dependency ∈ dependencies := (stored _).mp (List.mem_map_of_mem mem)
    rw [Finset.insert_eq_of_mem known] at nodes ⊢
    exact ⟨indexed, nodes, placed, stored, nodup⟩
  next absent =>
    have fresh : arc.dependency ∉ graph.arcs.map (·.dependency) :=
      fun mem => absent (placed.mem_of_stored source target mem)
    refine ⟨indexed, nodes, ?_, ?_, ?_⟩
    · intro other mem
      rcases List.mem_append.mp mem with old | new
      · exact placed other old
      · rw [List.mem_singleton.mp new]
        exact ⟨source, target⟩
    · intro dependency
      rw [List.map_append, List.mem_append, stored, Finset.mem_insert, or_comm,
        List.map_singleton, List.mem_singleton]
    · rw [List.map_append, List.map_singleton]
      exact List.nodup_append.mpr ⟨nodup, List.nodup_singleton _, fun _ old _ new =>
        fun same => fresh (List.mem_singleton.mp new ▸ same ▸ old)⟩

end Arcs

section Additions

theorem holds_empty : empty.Holds ∅ where
  indexed _ _ := by simp [empty, node?]
  mem_nodes _ := by simp [empty, Dependency.endpoints]
  placed _ mem := by simp [empty] at mem
  mem_arcs _ := by simp [empty]
  nodup := List.nodup_nil

variable {dependencies : Finset Dependency}

theorem addDependency_eq (dependency : Dependency) :
    graph.addDependency dependency =
      ((graph.withNode dependency.source).2.withNode dependency.target).2.withArc
        ⟨(graph.withNode dependency.source).1,
          ((graph.withNode dependency.source).2.withNode dependency.target).1, dependency⟩ :=
  rfl

theorem Holds.addDependency (h : graph.Holds dependencies) (dependency : Dependency) :
    (graph.addDependency dependency).Holds (insert dependency dependencies) := by
  rw [addDependency_eq]
  have first := h.indexed.withNode dependency.source
  have second := first.withNode dependency.target
  refine Holds.withArc second ?_ ((h.placed.withNode _).withNode _) ?_ ?_
    (node?_withNode_of_some (node?_withNode_self _) _) (node?_withNode_self _)
  · intro key
    rw [first.mem_withNode_nodes, h.indexed.mem_withNode_nodes, h.mem_nodes, endpoints_insert]
  · simpa only [withNode_arcs] using h.mem_arcs
  · simpa only [withNode_arcs] using h.nodup

theorem Holds.addDependencies (h : graph.Holds dependencies) (reported : List Dependency) :
    (graph.addDependencies reported).Holds (dependencies ∪ reported.toFinset) := by
  induction reported generalizing graph dependencies with
  | nil =>
      rw [List.toFinset_nil, Finset.union_empty]
      exact h
  | cons dependency rest ih =>
      have step := ih (h.addDependency dependency)
      rwa [Finset.insert_union, ← Finset.union_insert, ← List.toFinset_cons] at step

theorem Holds.add (h : graph.Holds dependencies) (addition : Addition) :
    (graph.add addition).Holds (dependencies ∪ addition.dependencies.toFinset) := by
  cases addition with
  | single dependency => exact h.addDependencies [dependency]
  | binding reported => exact h.addDependencies reported

theorem Holds.foldl_add (h : graph.Holds dependencies) (additions : List Addition) :
    (additions.foldl DependencyGraph.add graph).Holds (dependencies ∪ added additions) := by
  induction additions generalizing graph dependencies with
  | nil =>
      rw [added, List.flatMap_nil, List.toFinset_nil, Finset.union_empty]
      exact h
  | cons addition rest ih =>
      have step := ih (h.add addition)
      rwa [Finset.union_assoc, added, ← List.toFinset_append, ← List.flatMap_cons] at step

theorem holds_build (additions : List Addition) : (build additions).Holds (added additions) := by
  have h := holds_empty.foldl_add additions
  rwa [Finset.empty_union] at h

end Additions

section Contents

variable {dependencies : Finset Dependency}

theorem Holds.toFinset_nodes (h : graph.Holds dependencies) :
    graph.nodes.toFinset = Dependency.endpoints dependencies := by
  ext key
  rw [List.mem_toFinset, h.mem_nodes]

theorem Holds.length_nodes (h : graph.Holds dependencies) :
    graph.nodes.length = (Dependency.endpoints dependencies).card := by
  rw [← h.toFinset_nodes, List.toFinset_card_of_nodup h.indexed.nodup]

theorem Holds.length_arcs (h : graph.Holds dependencies) :
    graph.arcs.length = dependencies.card := by
  have all : (graph.arcs.map (·.dependency)).toFinset = dependencies := by
    ext dependency
    rw [List.mem_toFinset, h.mem_arcs]
  rw [← all, List.toFinset_card_of_nodup h.nodup, List.length_map]

theorem Holds.contains_iff (h : graph.Holds dependencies) (key : Key) :
    graph.contains key = true ↔ key ∈ Dependency.endpoints dependencies := by
  rw [contains, h.indexed.isSome_iff, h.mem_nodes]

theorem Holds.bijOn_node? (h : graph.Holds dependencies) :
    Set.BijOn graph.node? {key | key ∈ Dependency.endpoints dependencies}
      (some '' {node | node < graph.nodes.length}) := by
  refine ⟨?_, ?_, ?_⟩
  · intro key mem
    obtain ⟨node, found⟩ := Option.isSome_iff_exists.mp ((h.contains_iff key).mpr mem)
    have inside := (List.getElem?_eq_some_iff.mp ((h.indexed key node).mp found)).1
    exact ⟨node, inside, found.symm⟩
  · intro key mem other _ same
    obtain ⟨node, found⟩ := Option.isSome_iff_exists.mp ((h.contains_iff key).mpr mem)
    have first := (h.indexed key node).mp found
    have second := (h.indexed other node).mp (same.symm.trans found)
    exact Option.some.inj (first.symm.trans second)
  · rintro _ ⟨node, inside, rfl⟩
    have found : graph.node? graph.nodes[node] = some node :=
      (h.indexed _ _).mpr (List.getElem?_eq_getElem inside)
    exact ⟨graph.nodes[node], (h.mem_nodes _).mp (List.getElem_mem inside), found⟩

/-- The arcs that leave the node of a key are those of the dependencies that leave the key. -/
theorem Holds.mem_leaving_iff (h : graph.Holds dependencies) {key : Key} {node : Nat}
    (found : graph.node? key = some node) (dependency : Dependency) :
    dependency ∈ (graph.arcs.filter fun arc => arc.source == node).map (·.dependency) ↔
      dependency ∈ dependencies ∧ dependency.source = key := by
  simp only [← h.mem_arcs, List.mem_map, List.mem_filter, beq_iff_eq]
  constructor
  · rintro ⟨arc, ⟨mem, rfl⟩, rfl⟩
    have first := (h.indexed _ _).mp (h.placed arc mem).1
    have second := (h.indexed _ _).mp found
    exact ⟨⟨arc, mem, rfl⟩, Option.some.inj (first.symm.trans second)⟩
  · rintro ⟨⟨arc, mem, rfl⟩, rfl⟩
    have source := Option.some.inj ((h.placed arc mem).1.symm.trans found)
    exact ⟨arc, ⟨mem, source⟩, rfl⟩

theorem Holds.dependenciesOf_spec (h : graph.Holds dependencies) (key : Key) :
    (graph.dependenciesOf key).Nodup ∧ ∀ dependency,
      dependency ∈ graph.dependenciesOf key ↔
        dependency ∈ dependencies ∧ dependency.source = key := by
  rw [dependenciesOf]
  split
  next missing =>
    refine ⟨List.nodup_nil, fun dependency => iff_of_false List.not_mem_nil ?_⟩
    rintro ⟨mem, rfl⟩
    have present : dependency.source ∈ Dependency.endpoints dependencies :=
      Finset.mem_union_left _ (Finset.mem_image_of_mem _ mem)
    have found := (h.contains_iff _).mpr present
    rw [contains, missing] at found
    cases found
  next node found =>
    have leaving : ((graph.arcs.filter fun arc => arc.source == node).map
        (·.dependency)).Nodup := h.nodup.sublist (List.filter_sublist.map _)
    have perm := Ranking.distinct_perm leaving
    exact ⟨perm.nodup_iff.mpr leaving,
      fun dependency => perm.mem_iff.trans (h.mem_leaving_iff found dependency)⟩

end Contents

/-- A graph is determined by the set of the dependencies that were added to it: the index is a
bijection between their keys and the nodes, each dependency is stored once between the nodes of its
keys, and nothing else is stored. -/
theorem build_holds_exactly_added (additions : List Addition) :
    Set.BijOn (build additions).node? {key | key ∈ Dependency.endpoints (added additions)}
        (some '' {node | node < (build additions).nodes.length}) ∧
      (∀ key node, (build additions).node? key = some node ↔
        (build additions).nodes[node]? = some key) ∧
      (∀ arc ∈ (build additions).arcs,
        (build additions).node? arc.dependency.source = some arc.source ∧
          (build additions).node? arc.dependency.target = some arc.target) ∧
      (∀ dependency, ((build additions).arcs.map (·.dependency)).count dependency =
        if dependency ∈ added additions then 1 else 0) ∧
      (build additions).nodes.length = (Dependency.endpoints (added additions)).card ∧
      (build additions).arcs.length = (added additions).card ∧
      (∀ key, (build additions).contains key = true ↔
        key ∈ Dependency.endpoints (added additions)) ∧
      (∀ key, ((build additions).dependenciesOf key).Nodup ∧
        ((build additions).dependenciesOf key).toFinset =
          (added additions).filter fun dependency => dependency.source = key) ∧
      ∀ key, key ∉ Dependency.endpoints (added additions) →
        (build additions).dependenciesOf key = [] := by
  have h := holds_build additions
  refine ⟨h.bijOn_node?, h.indexed, h.placed, ?_, h.length_nodes, h.length_arcs, h.contains_iff,
    ?_, ?_⟩
  · intro dependency
    simp only [h.nodup.count, h.mem_arcs]
  · intro key
    obtain ⟨nodup, mem⟩ := h.dependenciesOf_spec key
    refine ⟨nodup, ?_⟩
    ext dependency
    rw [List.mem_toFinset, Finset.mem_filter, mem]
  · intro key absent
    have missing : (build additions).node? key = none := by
      rw [← h.contains_iff, contains, Option.not_isSome_iff_eq_none] at absent
      exact absent
    rw [dependenciesOf, missing]

end DependencyGraph

end Injector
