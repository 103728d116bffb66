import Injector.ProviderBinding
import Injector.Proofs.DependencyGraph.EagerCycle
/-!
What one more dependency does to eager cycles. A cycle that was not there before goes through the
new dependency, and the rest of it is a walk that leads back from its target to its source.
-/
namespace Injector

section Walks

variable {α : Type} {r s : α → α → Prop} {u v : α}

/-- A walk that makes use of a new step reaches its source along old steps, and goes on from its
target along old steps after the last use. -/
theorem transGen_of_one_more (more : ∀ a b, s a b → r a b ∨ a = u ∧ b = v) {a b : α}
    (walk : Relation.TransGen s a b) :
    Relation.TransGen r a b ∨ Relation.ReflTransGen r a u ∧ Relation.ReflTransGen r v b := by
  induction walk with
  | single step =>
      rcases more _ _ step with old | ⟨rfl, rfl⟩
      · exact .inl (.single old)
      · exact .inr ⟨.refl, .refl⟩
  | tail _ step ih =>
      rcases more _ _ step with old | ⟨rfl, rfl⟩
      · rcases ih with unused | ⟨before, after⟩
        · exact .inl (unused.tail old)
        · exact .inr ⟨before, after.tail old⟩
      · rcases ih with unused | ⟨before, _⟩
        · exact .inr ⟨unused.to_reflTransGen, .refl⟩
        · exact .inr ⟨before, .refl⟩

theorem exists_transGen_self_of_one_more (more : ∀ a b, s a b ↔ r a b ∨ a = u ∧ b = v) :
    (∃ a, Relation.TransGen s a a) ↔
      (∃ a, Relation.TransGen r a a) ∨ Relation.ReflTransGen r v u := by
  have old : r ≤ s := fun a b step => (more a b).mpr (.inl step)
  constructor
  · rintro ⟨a, cycle⟩
    rcases transGen_of_one_more (fun a b => (more a b).mp) cycle with unused | ⟨before, after⟩
    · exact .inl ⟨a, unused⟩
    · exact .inr (after.trans before)
  · rintro (⟨a, cycle⟩ | back)
    · exact ⟨a, Relation.TransGen.mono old _ _ cycle⟩
    · have new : s u v := (more u v).mpr (.inr ⟨rfl, rfl⟩)
      exact ⟨u, .head' new (Relation.ReflTransGen.mono old _ _ back)⟩

end Walks

section Needs

variable {dependencies : Finset Dependency} {dependency : Dependency} {a b : Key}

theorem Dependency.needs_insert :
    Needs (insert dependency dependencies) a b ↔
      Needs dependencies a b ∨
        dependency.lazy = false ∧ a = dependency.source ∧ b = dependency.target := by
  rw [Needs, Finset.exists_mem_insert, Needs, or_comm]
  refine or_congr_right ⟨?_, ?_⟩
  · rintro ⟨rfl, rfl, eager⟩
    exact ⟨eager, rfl, rfl⟩
  · rintro ⟨eager, rfl, rfl⟩
    exact ⟨rfl, rfl, eager⟩

theorem Dependency.needs_insert_lazy (h : dependency.lazy = true) :
    Needs (insert dependency dependencies) = Needs dependencies := by
  funext a b
  rw [needs_insert, h]
  simp only [Bool.true_eq_false, false_and, or_false]

theorem Dependency.Needs.mono {more : Finset Dependency} (h : dependencies ⊆ more) :
    Needs dependencies ≤ Needs more :=
  fun _ _ ⟨dependency, mem, need⟩ => ⟨dependency, h mem, need⟩

end Needs

namespace DependencyGraph

/-- The graph has a dependency of one key on another that is not lazy. -/
def Needs (graph : DependencyGraph) (source target : Key) : Prop :=
  ∃ dependency ∈ graph.dependenciesOf source,
    dependency.target = target ∧ dependency.lazy = false

variable {graph later : DependencyGraph} {dependencies more : Finset Dependency}

theorem Holds.needs_eq (h : graph.Holds dependencies) :
    graph.Needs = Dependency.Needs dependencies := by
  funext a b
  simp only [Needs, (h.dependenciesOf_spec a).2, Dependency.Needs, and_assoc]

theorem Holds.hasEagerCycle_addDependency_iff (h : graph.Holds dependencies)
    (dependency : Dependency) :
    (graph.addDependency dependency).hasEagerCycle = true ↔
      graph.hasEagerCycle = true ∨
        dependency.lazy = false ∧
          Relation.ReflTransGen graph.Needs dependency.target dependency.source := by
  rw [(h.addDependency dependency).hasEagerCycle_iff, h.hasEagerCycle_iff, h.needs_eq]
  cases eager : dependency.lazy with
  | true =>
      rw [Dependency.needs_insert_lazy eager]
      simp only [Bool.true_eq_false, false_and, or_false]
  | false =>
      have one : ∀ a b, Dependency.Needs (insert dependency dependencies) a b ↔
          Dependency.Needs dependencies a b ∨ a = dependency.source ∧ b = dependency.target := by
        intro a b
        rw [Dependency.needs_insert, and_iff_right eager]
      rw [exists_transGen_self_of_one_more one, and_iff_right rfl]

/-- A graph that holds more dependencies has the same eager cycles, if not more. -/
theorem Holds.hasEagerCycle_mono (h : graph.Holds dependencies) (h' : later.Holds more)
    (subset : dependencies ⊆ more) (cyclic : graph.hasEagerCycle = true) :
    later.hasEagerCycle = true := by
  obtain ⟨key, cycle⟩ := h.hasEagerCycle_iff.mp cyclic
  exact h'.hasEagerCycle_iff.mpr
    ⟨key, Relation.TransGen.mono (Dependency.Needs.mono subset) _ _ cycle⟩

theorem added_append (additions others : List Addition) :
    added (additions ++ others) = added additions ∪ added others := by
  rw [added, List.flatMap_append, List.toFinset_append, added, added]

/-- There is an eager cycle after one more dependency exactly if there was one before, or the
dependency is not lazy and closes one: it leads from a key to itself, or needs that were there
already lead from its target to its source. So an eager cycle stays, whatever is added next, and
the binding of a provider, which is lazy, makes no difference. -/
theorem hasEagerCycle_of_one_more (additions : List Addition) :
    (∀ dependency : Dependency,
      ((build additions).addDependency dependency).hasEagerCycle = true ↔
        (build additions).hasEagerCycle = true ∨
          dependency.lazy = false ∧
            (dependency.source = dependency.target ∨
              Relation.TransGen (build additions).Needs dependency.target dependency.source)) ∧
      (∀ others, (build additions).hasEagerCycle = true →
        (build (additions ++ others)).hasEagerCycle = true) ∧
      ∀ binding : ProviderBinding,
        ((build additions).addDependencies binding.dependencies).hasEagerCycle =
          (build additions).hasEagerCycle := by
  have h := holds_build additions
  refine ⟨fun dependency => ?_, fun others => ?_, fun binding => ?_⟩
  · rw [h.hasEagerCycle_addDependency_iff, Relation.reflTransGen_iff_eq_or_transGen]
  · refine h.hasEagerCycle_mono (holds_build (additions ++ others)) ?_
    rw [added_append]
    exact Finset.subset_union_left
  · have lazily := h.hasEagerCycle_addDependency_iff
      (.lazyRequired binding.provider binding.target)
    rw [Bool.eq_iff_iff]
    exact lazily.trans (or_iff_left fun closes => Bool.noConfusion closes.1)

-- A dependency that is there already closes a cycle when it is added again without being lazy.
example :
    let a := Key.ofType (.classType "A".toList)
    let b := Key.ofType (.classType "B".toList)
    let graph := build [.single ⟨a, b, false, false⟩, .single ⟨b, a, false, true⟩]
    graph.hasEagerCycle = false ∧
      (graph.addDependency ⟨b, a, false, true⟩).hasEagerCycle = false ∧
      (graph.addDependency ⟨b, a, false, false⟩).hasEagerCycle = true := by
  decide

end DependencyGraph

end Injector
