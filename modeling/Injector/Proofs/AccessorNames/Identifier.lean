import Injector.Settings
import Injector.Proofs.AccessorNames.Ledger
import Injector.Proofs.Text.Words
/-!
The shape of names. Every name begins with the start that is set for all names and goes on with
letters, digits and underscores only, so it is an identifier whenever the start is fit for use.
-/
namespace Injector

section Shapes

/-- A name begins with some start and goes on with characters that a name may go on with. -/
def Continues (start name : Text) : Prop :=
  ∃ rest, name = start ++ rest ∧ ∀ c ∈ rest, Settings.isNameTail c = true

theorem Continues.isPrefix {start name : Text} (h : Continues start name) : start <+: name := by
  obtain ⟨rest, rfl, -⟩ := h
  exact List.prefix_append start rest

theorem Continues.isNameStart {start name : Text} (h : Continues start name)
    (fit : Settings.isNameStart start = true) : Settings.isNameStart name = true := by
  obtain ⟨rest, rfl, tail⟩ := h
  cases start with
  | nil => cases fit
  | cons c start =>
      obtain ⟨head, inside⟩ := Bool.and_eq_true_iff.mp fit
      rw [List.cons_append, Settings.isNameStart, head, List.all_append, inside, Bool.true_and,
        Bool.true_and]
      exact List.all_eq_true.mpr tail

theorem Continues.trans_append {start name more : Text} (h : Continues start name)
    (tail : ∀ c ∈ more, Settings.isNameTail c = true) : Continues start (name ++ more) := by
  obtain ⟨rest, rfl, inside⟩ := h
  refine ⟨rest ++ more, List.append_assoc start rest more, ?_⟩
  exact List.forall_mem_append.mpr ⟨inside, tail⟩

theorem continues_baseName (start : Text) (key : Key) :
    Continues start (AccessorNames.baseName start key) := by
  refine ⟨Text.underscored (AccessorNames.keyText key), rfl, fun c mem => ?_⟩
  rw [Settings.isNameTail, Bool.or_eq_true, beq_iff_eq]
  exact Text.mem_underscored mem

theorem continues_candidate (start : Text) (key : Key) (k : Nat) :
    Continues start (AccessorNames.candidate (AccessorNames.baseName start key) k) := by
  cases k with
  | zero => exact continues_baseName start key
  | succ k =>
      refine (continues_baseName start key).trans_append (List.forall_mem_cons.mpr ⟨rfl, ?_⟩)
      intro c mem
      have digit : c.isDigit = true := Nat.isDigit_of_mem_toDigits (by omega) (by omega) mem
      rw [Settings.isNameTail, Char.isAlphanum, digit, Bool.or_true, Bool.true_or]

end Shapes

namespace AccessorNames

/-- The names have some start, and every name that is given continues it. -/
structure Rooted (start : Text) (names : AccessorNames) : Prop where
  start_eq : names.start = start
  continues : ∀ key name, names.name? key = some name → Continues start name

theorem Drawn.rooted {start : Text} {names : AccessorNames} (h : names.Drawn start) :
    names.Rooted start where
  start_eq := h.start_eq
  continues key name found := by
    obtain ⟨k, rfl⟩ := h.candidate key name found
    exact continues_candidate start key k

end AccessorNames

namespace Ledger

theorem rooted_run {ε ω : Type} (start : Text) (uses : List (Use ε ω)) :
    (run start uses).names.Rooted start :=
  (drawn_run start uses).rooted

theorem continues_of_mem_answers {ε ω : Type} {start : Text} {uses : List (Use ε ω)}
    {answer : Key × Text} (h : answer ∈ (run start uses).answers) : Continues start answer.2 :=
  (rooted_run start uses).continues _ _ (((sound_run start uses).mem_answers _ _).mp h)

end Ledger

end Injector
