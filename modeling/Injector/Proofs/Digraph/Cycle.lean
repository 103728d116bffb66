import Injector.DependencyGraph
import Mathlib.Data.Fintype.Pigeonhole
import Mathlib.Data.Set.Finite.Basic
import Mathlib.Logic.Relation
import Mathlib.Order.Monotone.Basic
/-!
Pruning finds every cycle and nothing else. An edge survives all rounds exactly if an endless
walk begins with it, and an endless walk along finitely many edges comes back to some node.
-/
namespace Injector.Digraph

/-- An edge leads from one node to another. -/
def Joins (edges : List (Nat × Nat)) (source target : Nat) : Prop :=
  (source, target) ∈ edges

/-- Each edge of the set is followed by an edge of the set. -/
def Endless (part : Set (Nat × Nat)) : Prop :=
  ∀ edge ∈ part, ∃ next ∈ part, next.1 = edge.2

@[simp] theorem mem_prune {edges : List (Nat × Nat)} {edge : Nat × Nat} :
    edge ∈ prune edges ↔ edge ∈ edges ∧ ∃ next ∈ edges, next.1 = edge.2 := by
  simp only [prune, List.mem_filter, List.any_eq_true, beq_iff_eq]

theorem prune_eq_self_iff {edges : List (Nat × Nat)} :
    prune edges = edges ↔ Endless {edge | edge ∈ edges} := by
  simp only [prune, List.filter_eq_self, List.any_eq_true, beq_iff_eq, Endless, Set.mem_ofPred_eq]

theorem length_prune_lt {edges : List (Nat × Nat)} (h : ¬ Endless {edge | edge ∈ edges}) :
    (prune edges).length < edges.length := by
  refine lt_of_le_of_ne (List.length_filter_le _ _) fun same => h ?_
  exact prune_eq_self_iff.mp (List.filter_sublist.eq_of_length same)

theorem subset_repeat_prune {edges : List (Nat × Nat)} {part : Set (Nat × Nat)}
    (endless : Endless part) (h : ∀ edge ∈ part, edge ∈ edges) (rounds : Nat) :
    ∀ edge ∈ part, edge ∈ rounds.repeat prune edges := by
  induction rounds with
  | zero => exact h
  | succ rounds ih =>
      intro edge mem
      obtain ⟨next, memNext, same⟩ := endless edge mem
      exact mem_prune.mpr ⟨ih edge mem, next, ih next memNext, same⟩

theorem repeat_prune_subset {edges : List (Nat × Nat)} (rounds : Nat) :
    rounds.repeat prune edges ⊆ edges := by
  induction rounds with
  | zero => exact fun _ mem => mem
  | succ rounds ih => exact fun _ mem => ih (mem_prune.mp mem).1

/-- Until nothing changes any more, each round removes an edge. -/
theorem endless_or_length_le (edges : List (Nat × Nat)) (rounds : Nat) :
    Endless {edge | edge ∈ rounds.repeat prune edges} ∨
      (rounds.repeat prune edges).length + rounds ≤ edges.length := by
  induction rounds with
  | zero => exact .inr (le_refl _)
  | succ rounds ih =>
      by_cases stable : Endless {edge | edge ∈ rounds.repeat prune edges}
      · have same := prune_eq_self_iff.mpr stable
        exact .inl (by simpa only [Nat.repeat, same] using stable)
      · have shorter := length_prune_lt stable
        have bound := ih.resolve_left stable
        exact .inr (by simp only [Nat.repeat]; omega)

theorem endless_core (edges : List (Nat × Nat)) : Endless {edge | edge ∈ core edges} := by
  rcases endless_or_length_le edges edges.length with endless | bound
  · exact endless
  · have none : core edges = [] := List.eq_nil_of_length_eq_zero (by rw [core]; omega)
    intro edge mem
    simp only [none, Set.mem_ofPred_eq, List.not_mem_nil] at mem

/-- The edges from whose target a walk leads back to their source. -/
theorem endless_closing (edges : List (Nat × Nat)) :
    Endless {edge | edge ∈ edges ∧ Relation.ReflTransGen (Joins edges) edge.2 edge.1} := by
  rintro ⟨source, target⟩ ⟨mem, back⟩
  rcases Relation.ReflTransGen.cases_head back with same | ⟨third, step, rest⟩
  · exact ⟨(source, target), ⟨mem, back⟩, same.symm⟩
  · exact ⟨(target, third), ⟨step, rest.tail mem⟩, rfl⟩

theorem core_ne_nil_of_cycle {edges : List (Nat × Nat)} {node : Nat}
    (cycle : Relation.TransGen (Joins edges) node node) : core edges ≠ [] := by
  obtain ⟨next, step, back⟩ := Relation.TransGen.head'_iff.mp cycle
  have mem : (node, next) ∈ core edges :=
    subset_repeat_prune (endless_closing edges) (fun _ mem => mem.1) _ _ ⟨step, back⟩
  exact List.ne_nil_of_mem mem

/-- Some walk along finitely many edges that never has to stop meets a node twice. -/
theorem cycle_of_endless {edges : List (Nat × Nat)} (endless : Endless {edge | edge ∈ edges})
    (h : edges ≠ []) : ∃ node, Relation.TransGen (Joins edges) node node := by
  obtain ⟨first, memFirst⟩ := List.exists_mem_of_ne_nil edges h
  have : Finite {edge // edge ∈ edges} := (List.finite_toSet edges).to_subtype
  choose next memNext follows using endless
  let advance : {edge // edge ∈ edges} → {edge // edge ∈ edges} :=
    fun edge => ⟨next edge.1 edge.2, memNext edge.1 edge.2⟩
  let walk : Nat → {edge // edge ∈ edges} := fun i => advance^[i] ⟨first, memFirst⟩
  have joined : ∀ i, Joins edges (walk i).1.1 (walk (i + 1)).1.1 := by
    intro i
    have step : (walk (i + 1)).1.1 = (walk i).1.2 := by
      simp only [walk, Function.iterate_succ_apply', advance]
      exact follows _ _
    rw [step]
    exact (walk i).2
  have along : ∀ {i j : Nat}, i < j →
      Relation.TransGen (Joins edges) (walk i).1.1 (walk j).1.1 := by
    intro i j lt
    exact Nat.rel_of_forall_rel_succ_of_lt (Relation.TransGen (Joins edges))
      (f := fun i => (walk i).1.1) (fun i => .single (joined i)) lt
  obtain ⟨i, j, differ, same⟩ := Finite.exists_ne_map_eq_of_infinite walk
  rcases lt_or_gt_of_ne differ with lt | gt
  · exact ⟨(walk i).1.1, by simpa only [same] using along lt⟩
  · exact ⟨(walk i).1.1, by simpa only [same] using along gt⟩

theorem hasCycle_iff {edges : List (Nat × Nat)} :
    hasCycle edges = true ↔ ∃ node, Relation.TransGen (Joins edges) node node := by
  rw [hasCycle, Bool.not_eq_true', List.isEmpty_eq_false_iff]
  constructor
  · intro h
    obtain ⟨node, cycle⟩ := cycle_of_endless (endless_core edges) h
    have within : Joins (core edges) ≤ Joins edges :=
      fun _ _ mem => repeat_prune_subset edges.length mem
    exact ⟨node, Relation.TransGen.mono within node node cycle⟩
  · rintro ⟨node, cycle⟩
    exact core_ne_nil_of_cycle cycle

end Injector.Digraph
