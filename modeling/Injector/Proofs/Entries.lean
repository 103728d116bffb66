import Mathlib.Data.List.Nodup
import Mathlib.Tactic.SplitIfs
/-!
Entries under names. Where no two entries have the same name, what is found under a name is what is
listed with it, so the order of the entries does not matter.
-/
namespace Injector.Entries

variable {α β : Type} [BEq α] [LawfulBEq α] {entries others : List (α × β)}

theorem lookup_cons_eq_ite [DecidableEq α] (entry : α × β) (rest : List (α × β)) (name : α) :
    (entry :: rest).lookup name = if name = entry.1 then some entry.2 else rest.lookup name := by
  rw [List.lookup_cons]
  by_cases same : name = entry.1
  · rw [if_pos same, same, BEq.rfl]
  · rw [if_neg same, beq_false_of_ne same]

theorem lookup_eq_some_iff_mem (differ : (entries.map (·.1)).Nodup) {name : α} {value : β} :
    entries.lookup name = some value ↔ (name, value) ∈ entries := by
  induction entries with
  | nil => simp
  | cons entry rest ih =>
      obtain ⟨first, content⟩ := entry
      obtain ⟨absent, differ⟩ := List.nodup_cons.mp differ
      rw [List.lookup_cons, List.mem_cons, Prod.mk.injEq]
      by_cases same : name = first
      · subst same
        have unlisted : (name, value) ∉ rest := fun mem =>
          absent (List.mem_map.mpr ⟨_, mem, rfl⟩)
        simp only [BEq.rfl, Option.some.injEq, true_and, unlisted, or_false, eq_comm]
      · simp only [beq_false_of_ne same, ih differ, same, false_and, false_or]

theorem lookup_perm (same : entries.Perm others) (differ : (entries.map (·.1)).Nodup) (name : α) :
    entries.lookup name = others.lookup name := by
  have differOthers : (others.map (·.1)).Nodup := (same.map (·.1)).nodup_iff.mp differ
  ext value
  rw [lookup_eq_some_iff_mem differ, lookup_eq_some_iff_mem differOthers, same.mem_iff]

/-- Each of the first names has its item, and the others have none. -/
theorem map_lookup_zip {names : List α} (differ : names.Nodup) {items : List β}
    (short : items.length ≤ names.length) :
    names.map ((names.zip items).lookup ·) =
      items.map some ++ List.replicate (names.length - items.length) none := by
  induction names generalizing items with
  | nil =>
      obtain rfl := List.eq_nil_of_length_eq_zero (Nat.le_zero.mp short)
      rfl
  | cons name names ih =>
      obtain ⟨absent, others⟩ := List.nodup_cons.mp differ
      cases items with
      | nil => simp [List.map_const', List.replicate_succ]
      | cons item items =>
          have later := ih others (Nat.le_of_succ_le_succ short)
          have skip : ∀ other ∈ names,
              ((name :: names).zip (item :: items)).lookup other =
                (names.zip items).lookup other := by
            intro other mem
            have different : other ≠ name := fun h => absent (h ▸ mem)
            rw [List.zip_cons_cons, List.lookup_cons, beq_false_of_ne different]
          rw [List.length_cons, List.length_cons, Nat.add_sub_add_right, List.map_cons,
            List.map_congr_left skip, later, List.zip_cons_cons, List.lookup_cons_self,
            List.map_cons, List.cons_append]

section Middle

variable [DecidableEq α] {γ : Type} {f : β → γ} {value other : β} {name place : α}

theorem map_lookup_middle (before after : List (α × β)) (same : name = place → f value = f other) :
    ((before ++ (place, value) :: after).lookup name).map f =
      ((before ++ (place, other) :: after).lookup name).map f := by
  induction before with
  | nil =>
      rw [List.nil_append, List.nil_append, lookup_cons_eq_ite, lookup_cons_eq_ite]
      split_ifs with here
      · exact congrArg some (same here)
      · rfl
  | cons entry rest ih =>
      rw [List.cons_append, List.cons_append, lookup_cons_eq_ite, lookup_cons_eq_ite]
      split_ifs
      · rfl
      · exact ih

theorem lookup_middle_of_ne (before after : List (α × β)) (differ : name ≠ place) :
    (before ++ (place, value) :: after).lookup name = (before ++ after).lookup name := by
  induction before with
  | nil => rw [List.nil_append, List.nil_append, lookup_cons_eq_ite, if_neg differ]
  | cons entry rest ih =>
      rw [List.cons_append, List.cons_append, lookup_cons_eq_ite, lookup_cons_eq_ite, ih]

theorem map_lookup_zip_middle {names : List α} {before after : List β}
    (same : names[before.length]? = some name → f value = f other) :
    ((names.zip (before ++ value :: after)).lookup name).map f =
      ((names.zip (before ++ other :: after)).lookup name).map f := by
  induction names generalizing before with
  | nil => rfl
  | cons first names ih =>
      cases before with
      | nil =>
          rw [List.nil_append, List.nil_append, List.zip_cons_cons, List.zip_cons_cons]
          exact map_lookup_middle [] _ fun here => same (congrArg some here.symm)
      | cons item before =>
          rw [List.cons_append, List.cons_append, List.zip_cons_cons, List.zip_cons_cons,
            lookup_cons_eq_ite, lookup_cons_eq_ite]
          split_ifs
          · rfl
          · exact ih same

end Middle

end Injector.Entries
