import Injector.DependencyGraph
import Injector.Proofs.Order
import Mathlib.Data.Finset.Card
import Mathlib.Data.List.Nodup
/-!
Places in an order. The distinct items of a list ascend, so the place of an item is the number of
the distinct items before it, and neither depends on the order in which the items are listed. This
holds for the orders of types, bounds, annotations, qualifiers, keys and dependencies.
-/
namespace Injector.Ranking

/-! Insertion keeps all items, so items that differ are ranked without loss. -/

section Insertion

variable {α : Type} [Ord α] [Std.LawfulEqOrd α]

theorem insert_perm {item : α} {items : List α} (h : item ∉ items) :
    (insert item items).Perm (item :: items) := by
  induction items with
  | nil => exact .refl _
  | cons first rest ih =>
      have differ : item ≠ first := List.ne_of_not_mem_cons h
      have absent : item ∉ rest := List.not_mem_of_not_mem_cons h
      rw [insert]
      split
      next => exact .refl _
      next same => exact absurd (Std.LawfulEqOrd.eq_of_compare same) differ
      next => exact ((ih absent).cons first).trans (.swap item first rest)

theorem distinct_perm {items : List α} (h : items.Nodup) : (distinct items).Perm items := by
  induction items with
  | nil => exact .refl _
  | cons item rest ih =>
      obtain ⟨absent, differ⟩ := List.nodup_cons.mp h
      have others := ih differ
      exact (insert_perm fun mem => absent (others.mem_iff.mp mem)).trans (others.cons item)

end Insertion

section Ascending

variable {α : Type} [Ord α]

def Ascending (items : List α) : Prop :=
  items.Pairwise fun a b => compare a b = .lt

variable [Std.LawfulEqOrd α]

theorem mem_insert {item other : α} {items : List α} :
    other ∈ insert item items ↔ other = item ∨ other ∈ items := by
  induction items with
  | nil => exact List.mem_cons
  | cons first rest ih =>
      rw [insert]
      split
      next => exact List.mem_cons
      next same =>
        obtain rfl := Std.LawfulEqOrd.eq_of_compare same
        rw [List.mem_cons, or_self_left]
      next => rw [List.mem_cons, ih, List.mem_cons, or_left_comm]

theorem mem_distinct {item : α} {items : List α} : item ∈ distinct items ↔ item ∈ items := by
  induction items with
  | nil => exact Iff.rfl
  | cons first rest ih => rw [distinct, List.foldr_cons, mem_insert, List.mem_cons, ← ih, distinct]

theorem Ascending.nodup {items : List α} (h : Ascending items) : items.Nodup := by
  refine List.Pairwise.imp (fun less same => ?_) h
  subst same
  rw [Std.ReflOrd.compare_self] at less
  cases less

variable [Std.TransOrd α]

theorem Ascending.insert {items : List α} (h : Ascending items) (item : α) :
    Ascending (insert item items) := by
  induction items with
  | nil => exact List.pairwise_singleton _ _
  | cons first rest ih =>
      obtain ⟨before, ascending⟩ := List.pairwise_cons.mp h
      rw [Ranking.insert]
      split
      next less =>
        refine List.pairwise_cons.mpr ⟨fun other mem => ?_, h⟩
        rcases List.mem_cons.mp mem with rfl | mem
        · exact less
        · exact Std.TransCmp.lt_trans less (before other mem)
      next => exact h
      next greater =>
        refine List.pairwise_cons.mpr ⟨fun other mem => ?_, ih ascending⟩
        rcases mem_insert.mp mem with rfl | mem
        · exact Std.OrientedCmp.lt_of_gt greater
        · exact before other mem

theorem ascending_distinct (items : List α) : Ascending (distinct items) := by
  induction items with
  | nil => exact .nil
  | cons item rest ih => exact ih.insert item

/-- Only the set of the items matters. -/
theorem distinct_congr {items others : List α} (h : ∀ item, item ∈ items ↔ item ∈ others) :
    distinct items = distinct others := by
  have same : (distinct items).Perm (distinct others) := by
    rw [List.perm_ext_iff_of_nodup (ascending_distinct items).nodup
      (ascending_distinct others).nodup]
    simpa only [mem_distinct] using h
  refine same.eq_of_pairwise ?_ (ascending_distinct items) (ascending_distinct others)
  intro a b _ _ less greater
  rw [Std.OrientedOrd.eq_swap, greater] at less
  cases less

/-- Before an item stand those that are less, and no others. -/
theorem Ascending.rank_eq {items : List α} (h : Ascending items) {item : α} (mem : item ∈ items) :
    rank items item = (items.filter fun other => compare other item == .lt).length := by
  induction items with
  | nil => cases mem
  | cons first rest ih =>
      obtain ⟨before, ascending⟩ := List.pairwise_cons.mp h
      rw [rank, List.findIdx_cons]
      rcases List.mem_cons.mp mem with rfl | later
      · have none : rest.filter (fun other => compare other item == .lt) = [] := by
          rw [List.filter_eq_nil_iff]
          intro other inside
          rw [Std.OrientedOrd.eq_swap, before other inside]
          decide
        have self : compare item item = .eq := Std.ReflOrd.compare_self
        rw [self, List.filter_cons_of_neg (by rw [self]; decide), none]
        rfl
      · have less : compare first item = .lt := before item later
        have greater : compare item first = .gt := by
          rw [Std.OrientedOrd.eq_swap, less]
          rfl
        rw [greater, List.filter_cons_of_pos (by rw [less]; decide), List.length_cons,
          ← ih ascending later]
        rfl

end Ascending

section Counting

variable {α : Type} [DecidableEq α]

theorem nodup_eraseDups (items : List α) : items.eraseDups.Nodup := by
  induction h : items.length using Nat.strongRecOn generalizing items with
  | _ n ih =>
      cases items with
      | nil => exact .nil
      | cons item rest =>
          have fewer : (rest.filter fun other => !other == item).length < n := by
            rw [← h]
            exact Nat.lt_succ_of_le (List.length_filter_le _ _)
          rw [List.eraseDups_cons, List.nodup_cons, List.mem_eraseDups, List.mem_filter]
          refine ⟨fun mem => ?_, ih _ fewer _ rfl⟩
          rw [BEq.rfl] at mem
          cases mem.2

theorem countDifferent_eq_card (items : List α) : countDifferent items = items.toFinset.card := by
  have same : items.eraseDups.toFinset = items.toFinset := by
    ext item
    rw [List.mem_toFinset, List.mem_toFinset, List.mem_eraseDups]
  rw [countDifferent, ← same, List.toFinset_card_of_nodup (nodup_eraseDups items)]

variable [Ord α] [Std.LawfulEqOrd α]

theorem toFinset_distinct (items : List α) : (distinct items).toFinset = items.toFinset := by
  ext item
  rw [List.mem_toFinset, List.mem_toFinset, mem_distinct]

variable [Std.TransOrd α]

theorem length_distinct (items : List α) : (distinct items).length = items.toFinset.card := by
  rw [← toFinset_distinct, List.toFinset_card_of_nodup (ascending_distinct items).nodup]

theorem rank_distinct {items : List α} {item : α} (mem : item ∈ items) :
    rank (distinct items) item =
      (items.toFinset.filter fun other => compare other item = .lt).card := by
  have ascending := ascending_distinct items
  have before := ascending.nodup.filter fun other => compare other item == .lt
  rw [ascending.rank_eq (mem_distinct.mpr mem), ← List.toFinset_card_of_nodup before,
    List.toFinset_filter, toFinset_distinct]
  simp only [beq_iff_eq]

end Counting

/-- An order that is total and equal on equal values only, and by which the items of every list are
ranked: there are as many distinct items as there are different ones, and the rank of an item is
the number of those that are less, however the items are listed. -/
structure RanksAll (α : Type) [Ord α] [DecidableEq α] : Prop where
  total : ∀ a b : α, (compare a b).isLE = true ∨ (compare b a).isLE = true
  trans : ∀ a b c : α, (compare a b).isLE = true → (compare b c).isLE = true →
    (compare a c).isLE = true
  antisymm : ∀ a b : α, (compare a b).isLE = true → (compare b a).isLE = true → a = b
  eq_iff : ∀ a b : α, compare a b = .eq ↔ a = b
  length_distinct : ∀ items : List α,
    (distinct items).length = items.toFinset.card ∧ countDifferent items = items.toFinset.card
  rank_eq : ∀ items : List α, ∀ item ∈ items,
    rank (distinct items) item =
      (items.toFinset.filter fun other => compare other item = .lt).card
  rank_perm : ∀ items others : List α, items.Perm others → ∀ item,
    rank (distinct items) item = rank (distinct others) item

theorem ranksAll (α : Type) [Ord α] [DecidableEq α] [Std.TransOrd α] [Std.LawfulEqOrd α] :
    RanksAll α where
  total a b := by
    rw [Std.OrientedOrd.eq_swap (a := b)]
    cases compare a b <;> decide
  trans a b c := Std.TransOrd.isLE_trans
  antisymm a b first second :=
    Std.LawfulEqOrd.eq_of_compare (Std.OrientedCmp.isLE_antisymm first second)
  eq_iff a b := Std.LawfulEqOrd.compare_eq_iff_eq
  length_distinct items := ⟨Ranking.length_distinct items, countDifferent_eq_card items⟩
  rank_eq items item mem := rank_distinct mem
  rank_perm items others h item := by rw [distinct_congr fun item => h.mem_iff]

/-- Types, bounds, annotations, qualifiers, keys and dependencies are ranked by their orders, in
which texts are compared character by character, and that is byte by byte. -/
theorem ranksAll_orders :
    (RanksAll JavaType ∧ RanksAll Bound ∧ RanksAll AnnotationUse ∧ RanksAll Qualifier ∧
        RanksAll Key ∧ RanksAll Dependency) ∧
      ∀ a b : Text, compare a b = compare (Text.utf8 a) (Text.utf8 b) :=
  ⟨⟨ranksAll _, ranksAll _, ranksAll _, ranksAll _, ranksAll _, ranksAll _⟩,
    fun a b => (Text.compare_utf8 a b).symm⟩

end Injector.Ranking
