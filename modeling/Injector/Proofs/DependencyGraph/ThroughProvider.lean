import Injector.ProviderBinding
import Injector.Proofs.DependencyGraph.EagerCycle
/-!
Providers break cycles. If some dependencies ask for a provider of their target instead, then the
only ways on from these providers are lazy, so an eager cycle never goes through one of them: the
graph has an eager cycle exactly if there is one without these dependencies.
-/
namespace Injector

/-- The key of the provider, made from a raw type, of what a key stands for. -/
def Key.provider (raw : Text) (key : Key) : Key :=
  key.withType (.parameterized raw [key.type])

def Dependency.viaProvider (raw : Text) (dependency : Dependency) : Dependency :=
  { dependency with target := dependency.target.provider raw }

theorem ProviderBinding.ofKey_provider (raw : Text) (key : Key) :
    ∃ binding, ofKey (key.provider raw) = .ok binding ∧ binding.target = key :=
  ⟨_, rfl, rfl⟩

/-- If every step that another step follows is a step of a smaller relation, then all cycles are
cycles of the smaller relation. -/
theorem transGen_self_of_followed {α : Type} {r s : α → α → Prop}
    (followed : ∀ a b c, r a b → r b c → s a b) {a : α} (cycle : Relation.TransGen r a a) :
    Relation.TransGen s a a := by
  obtain ⟨next, first, _⟩ := Relation.TransGen.head'_iff.mp cycle
  have walk : ∀ b, Relation.TransGen r b a → Relation.TransGen s b a := by
    intro b steps
    induction steps using Relation.TransGen.head_induction_on with
    | single step => exact .single (followed _ _ _ step first)
    | head step rest ih =>
        obtain ⟨third, second, _⟩ := Relation.TransGen.head'_iff.mp rest
        exact .head (followed _ _ _ step second) ih
  exact walk a cycle

namespace DependencyGraph

/-- What is added when some dependencies are redirected to providers: the kept dependencies, the
redirected ones, and the bindings of the providers. -/
inductive Rewired (raw : Text) (kept redirected : Finset Dependency) : Addition → Prop
  | kept {dependency : Dependency} :
      dependency ∈ kept → Rewired raw kept redirected (.single dependency)
  | redirected {dependency : Dependency} :
      dependency ∈ redirected →
      Rewired raw kept redirected (.single (dependency.viaProvider raw))
  | bound {dependency : Dependency} {binding : ProviderBinding} :
      dependency ∈ redirected →
      ProviderBinding.ofKey (dependency.target.provider raw) = .ok binding →
      Rewired raw kept redirected (.binding binding.dependencies)

variable {raw : Text} {kept redirected : Finset Dependency} {additions : List Addition}

theorem mem_added {dependency : Dependency} :
    dependency ∈ added additions ↔ ∃ addition ∈ additions, dependency ∈ addition.dependencies := by
  rw [added, List.mem_toFinset, List.mem_flatMap]

theorem mem_added_of_kept (rewired : ∀ addition, addition ∈ additions ↔
      Rewired raw kept redirected addition) {dependency : Dependency} (mem : dependency ∈ kept) :
    dependency ∈ added additions :=
  mem_added.mpr ⟨_, (rewired _).mpr (.kept mem), List.mem_singleton_self _⟩

/-- An eager dependency of the rewired graph is kept or leads to a provider. -/
theorem eager_of_mem_added (rewired : ∀ addition, addition ∈ additions ↔
      Rewired raw kept redirected addition) {dependency : Dependency}
    (mem : dependency ∈ added additions) (eager : dependency.lazy = false) :
    dependency ∈ kept ∨ ∃ other ∈ redirected, dependency = other.viaProvider raw := by
  obtain ⟨addition, present, inside⟩ := mem_added.mp mem
  cases (rewired addition).mp present with
  | kept memKept =>
      obtain rfl := List.mem_singleton.mp inside
      exact .inl memKept
  | redirected memOther =>
      obtain rfl := List.mem_singleton.mp inside
      exact .inr ⟨_, memOther, rfl⟩
  | bound _ _ =>
      -- A binding reports lazy dependencies only.
      obtain rfl := List.mem_singleton.mp inside
      cases eager

/-- No eager step leads on from a provider, so an eager step with another one after it is kept. -/
theorem needs_kept_of_followed (rewired : ∀ addition, addition ∈ additions ↔
      Rewired raw kept redirected addition)
    (unused : ∀ dependency ∈ kept ∪ redirected, ∀ other ∈ redirected,
      dependency.source ≠ other.target.provider raw) (a b c : Key)
    (step : Dependency.Needs (added additions) a b)
    (next : Dependency.Needs (added additions) b c) : Dependency.Needs kept a b := by
  obtain ⟨first, memFirst, rfl, rfl, eagerFirst⟩ := step
  obtain ⟨second, memSecond, follows, -, eagerSecond⟩ := next
  rcases eager_of_mem_added rewired memFirst eagerFirst with mem | ⟨other, memOther, rfl⟩
  · exact ⟨first, mem, rfl, rfl, eagerFirst⟩
  · exfalso
    rcases eager_of_mem_added rewired memSecond eagerSecond with mem | ⟨another, mem, rfl⟩
    · exact unused second (Finset.mem_union_left _ mem) other memOther follows
    · exact unused another (Finset.mem_union_right _ mem) other memOther follows

/-- Some dependencies of a set are redirected to providers that nothing in the set depends from.
All these providers have bindings, and with them, in whatever order everything is added, there is
an eager cycle exactly if there is one among the dependencies that were not redirected. -/
theorem hasEagerCycle_viaProvider_iff {dependencies : Finset Dependency} {plain : List Addition}
    (part : redirected ⊆ dependencies)
    (unused : ∀ dependency ∈ dependencies, ∀ other ∈ redirected,
      dependency.source ≠ other.target.provider raw)
    (rewired : ∀ addition, addition ∈ additions ↔
      Rewired raw (dependencies \ redirected) redirected addition)
    (others : ∀ addition, addition ∈ plain ↔
      ∃ dependency ∈ dependencies \ redirected, addition = .single dependency) :
    (∀ dependency ∈ redirected, ∃ binding,
        ProviderBinding.ofKey (dependency.target.provider raw) = .ok binding ∧
          binding.target = dependency.target) ∧
      ((build additions).hasEagerCycle = true ↔ (build plain).hasEagerCycle = true) := by
  constructor
  · exact fun dependency _ => ProviderBinding.ofKey_provider raw dependency.target
  have same : added plain = dependencies \ redirected := by
    ext dependency
    rw [mem_added]
    constructor
    · rintro ⟨addition, present, inside⟩
      obtain ⟨other, mem, rfl⟩ := (others addition).mp present
      obtain rfl := List.mem_singleton.mp inside
      exact mem
    · intro mem
      exact ⟨_, (others _).mpr ⟨dependency, mem, rfl⟩, List.mem_singleton_self _⟩
  rw [(holds_build additions).hasEagerCycle_iff, (holds_build plain).hasEagerCycle_iff, same]
  constructor
  · rintro ⟨key, cycle⟩
    have everywhere : ∀ dependency ∈ (dependencies \ redirected) ∪ redirected,
        ∀ other ∈ redirected, dependency.source ≠ other.target.provider raw := by
      rw [Finset.sdiff_union_of_subset part]
      exact unused
    exact ⟨key, transGen_self_of_followed (needs_kept_of_followed rewired everywhere) cycle⟩
  · rintro ⟨key, cycle⟩
    refine ⟨key, Relation.TransGen.mono ?_ _ _ cycle⟩
    rintro _ _ ⟨dependency, mem, rfl, rfl, eager⟩
    exact ⟨dependency, mem_added_of_kept rewired mem, rfl, rfl, eager⟩

/-- Two classes that need each other stand in an eager cycle. If one of them asks for a provider of
the other instead, no cycle is left, though the binding leads from the provider back into it. -/
theorem hasEagerCycle_viaProvider_classes :
    let raw := "com.google.inject.Provider".toList
    let a := Key.ofType (.classType "A".toList)
    let b := Key.ofType (.classType "B".toList)
    let go : Dependency := ⟨a, b, false, false⟩
    let back : Dependency := ⟨b, a, false, false⟩
    let forward := Dependency.lazyRequired (b.provider raw) b
    let additions := [.binding [forward], .single (go.viaProvider raw), .single back]
    let plain := [Addition.single back]
    ((∀ dependency ∈ ({go, back} : Finset Dependency), ∀ other ∈ ({go} : Finset Dependency),
        dependency.source ≠ other.target.provider raw) ∧
      (∀ addition, addition ∈ additions ↔ Rewired raw ({go, back} \ {go}) {go} addition) ∧
      ∀ addition, addition ∈ plain ↔
        ∃ dependency ∈ ({go, back} \ {go} : Finset Dependency), addition = .single dependency) ∧
    ((build additions).hasEagerCycle = true ↔ (build plain).hasEagerCycle = true) ∧
    (build [.single go, .single back]).hasEagerCycle = true ∧
    (build additions).hasEagerCycle = false := by
  intro raw a b go back forward additions plain
  have kept : ({go, back} \ {go} : Finset Dependency) = {back} := by decide
  have unused : ∀ dependency ∈ ({go, back} : Finset Dependency),
      ∀ other ∈ ({go} : Finset Dependency), dependency.source ≠ other.target.provider raw := by
    decide
  have rewired : ∀ addition, addition ∈ additions ↔
      Rewired raw ({go, back} \ {go}) {go} addition := by
    intro addition
    rw [kept]
    constructor
    · intro mem
      simp only [additions, List.mem_cons, List.not_mem_nil, or_false] at mem
      rcases mem with rfl | rfl | rfl
      · exact .bound (Finset.mem_singleton_self go) rfl
      · exact .redirected (Finset.mem_singleton_self go)
      · exact .kept (Finset.mem_singleton_self back)
    · rintro (mem | mem | ⟨mem, made⟩)
      · obtain rfl := Finset.mem_singleton.mp mem
        exact .tail _ (.tail _ (.head _))
      · obtain rfl := Finset.mem_singleton.mp mem
        exact .tail _ (.head _)
      · obtain rfl := Finset.mem_singleton.mp mem
        obtain rfl := Except.ok.inj made
        exact .head _
  have others : ∀ addition, addition ∈ plain ↔
      ∃ dependency ∈ ({go, back} \ {go} : Finset Dependency), addition = .single dependency := by
    intro addition
    rw [kept]
    simp only [plain, List.mem_singleton, Finset.mem_singleton, exists_eq_left]
  have part : ({go} : Finset Dependency) ⊆ {go, back} := by decide
  exact ⟨⟨unused, rewired, others⟩,
    (hasEagerCycle_viaProvider_iff part unused rewired others).2, by decide, by decide⟩

end DependencyGraph

end Injector
