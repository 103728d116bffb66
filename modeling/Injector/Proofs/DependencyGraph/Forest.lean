import Injector.Proofs.DependencyGraph.Build
import Injector.Proofs.ProviderBinding.Unwrapping
import Mathlib.Logic.Relation
/-!
Graphs of providers alone. Every arc takes one layer off the type of its source, so the arcs of
such a graph form no cycle, and a provider has only one of them: the graph is a forest.
-/
namespace Injector.DependencyGraph

section Providers

/-- The graph of some providers, whose bindings are added in order. -/
def ofBindings (bindings : List ProviderBinding) : DependencyGraph :=
  build (bindings.map fun binding => .binding binding.dependencies)

/-- Some arc leads from one node to another, be it lazy or not. -/
def Leads (graph : DependencyGraph) (source target : Nat) : Prop :=
  ∃ arc ∈ graph.arcs, arc.source = source ∧ arc.target = target

/-- Steps along which a measure gets smaller lead nowhere back. -/
theorem not_transGen_self_of_measure {α : Type} {r : α → α → Prop} (measure : α → Nat)
    (less : ∀ a b, r a b → measure b < measure a) (a : α) : ¬ Relation.TransGen r a a := by
  intro cycle
  have down : Relation.TransGen (· > ·) (measure a) (measure a) := cycle.lift measure less
  rw [Relation.transGen_eq_self] at down
  exact down.false

variable {bindings : List ProviderBinding}

theorem holds_ofBindings (bindings : List ProviderBinding) :
    (ofBindings bindings).Holds
      (added (bindings.map fun binding => .binding binding.dependencies)) :=
  holds_build _

theorem mem_added_bindings {dependency : Dependency} :
    dependency ∈ added (bindings.map fun binding => .binding binding.dependencies) ↔
      ∃ binding ∈ bindings, dependency = .lazyRequired binding.provider binding.target := by
  simp [added, Addition.dependencies, ProviderBinding.dependencies]

/-- Every arc is that of a binding, between the nodes of its keys. -/
theorem exists_binding_of_arc {arc : Arc} (mem : arc ∈ (ofBindings bindings).arcs) :
    ∃ binding ∈ bindings, arc.dependency = .lazyRequired binding.provider binding.target ∧
      (ofBindings bindings).nodes[arc.source]? = some binding.provider ∧
      (ofBindings bindings).nodes[arc.target]? = some binding.target := by
  have h := holds_ofBindings bindings
  have stored := (h.mem_arcs _).mp (List.mem_map_of_mem mem)
  obtain ⟨binding, inside, same⟩ := mem_added_bindings.mp stored
  obtain ⟨source, target⟩ := h.placed arc mem
  rw [same] at source target
  exact ⟨binding, inside, same, (h.indexed _ _).mp source, (h.indexed _ _).mp target⟩

/-- The layers of the key that a node holds. -/
def layersAt (graph : DependencyGraph) (node : Nat) : Nat :=
  graph.nodes[node]?.elim 0 (·.type.layers)

theorem layersAt_lt_of_leads {source target : Nat} (h : (ofBindings bindings).Leads source target) :
    (ofBindings bindings).layersAt target < (ofBindings bindings).layersAt source := by
  obtain ⟨arc, mem, rfl, rfl⟩ := h
  obtain ⟨binding, -, -, source, target⟩ := exists_binding_of_arc mem
  rw [layersAt, layersAt, source, target, Option.elim_some, Option.elim_some,
    binding.layers_provider]
  exact Nat.lt_succ_self _

/-- Arcs that leave one node belong to bindings of one key, and a key has one binding only. -/
theorem dependency_eq_of_source_eq {arc other : Arc} (mem : arc ∈ (ofBindings bindings).arcs)
    (memOther : other ∈ (ofBindings bindings).arcs) (h : arc.source = other.source) :
    arc.dependency = other.dependency := by
  obtain ⟨binding, -, same, source, -⟩ := exists_binding_of_arc mem
  obtain ⟨otherBinding, -, sameOther, sourceOther, -⟩ := exists_binding_of_arc memOther
  rw [h] at source
  have provider := Option.some.inj (source.symm.trans sourceOther)
  rw [same, sameOther, ProviderBinding.eq_of_provider_eq provider]

theorem length_leaving_le_one (bindings : List ProviderBinding) (node : Nat) :
    ((ofBindings bindings).arcs.filter fun arc => arc.source == node).length ≤ 1 := by
  have nodup : (((ofBindings bindings).arcs.filter fun arc => arc.source == node).map
      (·.dependency)).Nodup :=
    (holds_ofBindings bindings).nodup.sublist (List.filter_sublist.map _)
  -- Arcs differ in their dependencies, so to count the arcs of a node is to count these.
  rw [← List.length_map (·.dependency), ← List.toFinset_card_of_nodup nodup, Finset.card_le_one]
  intro dependency mem other memOther
  obtain ⟨arc, leaves, rfl⟩ := List.mem_map.mp (List.mem_toFinset.mp mem)
  obtain ⟨otherArc, leavesOther, rfl⟩ := List.mem_map.mp (List.mem_toFinset.mp memOther)
  obtain ⟨inside, source⟩ := List.mem_filter.mp leaves
  obtain ⟨insideOther, sourceOther⟩ := List.mem_filter.mp leavesOther
  exact dependency_eq_of_source_eq inside insideOther
    ((beq_iff_eq.mp source).trans (beq_iff_eq.mp sourceOther).symm)

theorem dependenciesOf_provider {binding : ProviderBinding} (mem : binding ∈ bindings) :
    (ofBindings bindings).dependenciesOf binding.provider = binding.dependencies := by
  obtain ⟨nodup, members⟩ := (holds_ofBindings bindings).dependenciesOf_spec binding.provider
  refine List.perm_singleton.mp ((List.perm_ext_iff_of_nodup nodup (List.nodup_singleton _)).mpr ?_)
  intro dependency
  rw [members, mem_added_bindings, List.mem_singleton]
  constructor
  · rintro ⟨⟨other, -, rfl⟩, same⟩
    rw [ProviderBinding.eq_of_provider_eq same]
  · rintro rfl
    exact ⟨⟨binding, mem, rfl⟩, rfl⟩

end Providers

/-- The graph of some providers is a forest, one node a key: each of them has the one dependency that
its binding reports, at most one arc leaves a node, an arc leads from a provider to what the provider
provides, under the same qualifier, and no walk along arcs comes back, lazy as they are. From any key
the way through bindings is determined and ends after as many steps as its type has layers; the keys
on it differ and have the same qualifier, and the last one is refused for the fault of its type. -/
theorem ofBindings_forest (bindings : List ProviderBinding) :
    (ofBindings bindings).nodes.Nodup ∧
      (∀ binding ∈ bindings,
        (ofBindings bindings).dependenciesOf binding.provider = binding.dependencies) ∧
      (∀ node, ((ofBindings bindings).arcs.filter fun arc => arc.source == node).length ≤ 1) ∧
      (∀ arc ∈ (ofBindings bindings).arcs, ∃ raw type qualifier,
        (ofBindings bindings).nodes[arc.source]? = some ⟨.parameterized raw [type], qualifier⟩ ∧
          (ofBindings bindings).nodes[arc.target]? = some ⟨type, qualifier⟩) ∧
      (∀ node, ¬ Relation.TransGen (ofBindings bindings).Leads node node) ∧
      ∀ key : Key, ∃ keys failure,
        (∀ others other, key.Unwraps others other ↔ others = keys ∧ other = failure) ∧
          keys.length = key.type.layers + 1 ∧ keys.Nodup ∧
          (∀ other ∈ keys, other.qualifier = key.qualifier) ∧
          keys.getLast? = some failure.key ∧ failure.fault.Fits failure.key.type := by
  refine ⟨(holds_ofBindings bindings).indexed.nodup, fun binding => dependenciesOf_provider,
    length_leaving_le_one bindings, ?_, ?_, ?_⟩
  · intro arc mem
    obtain ⟨binding, -, -, source, target⟩ := exists_binding_of_arc mem
    obtain ⟨raw, shape⟩ := binding.argument
    refine ⟨raw, binding.target.type, binding.target.qualifier, ?_, target⟩
    rw [source, binding.sameQualifier, ← shape]
  · exact not_transGen_self_of_measure _ fun _ _ => layersAt_lt_of_leads
  · intro key
    obtain ⟨keys, failure, way⟩ := key.exists_unwraps
    refine ⟨keys, failure, fun others other => ⟨way.unique, ?_⟩, way.length_eq, way.nodup,
      way.qualifier_eq, way.failure_fits⟩
    rintro ⟨rfl, rfl⟩
    exact way

end Injector.DependencyGraph
