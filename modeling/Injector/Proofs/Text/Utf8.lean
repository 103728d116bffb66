import Injector.Text
import Mathlib.Data.Char
import Mathlib.Tactic.SplitIfs
/-!
The order of texts is the order of their bytes. Characters are ordered by code point, and UTF-8
keeps that order: the bytes of two different characters differ at a place that both have.
-/
namespace Injector.Text

/-- The bytes of a text in UTF-8. -/
def utf8 (text : Text) : List UInt8 :=
  text.flatMap String.utf8EncodeChar

section Lists

variable {α : Type} [Ord α]

theorem compare_cons_cons (a b : α) (as bs : List α) :
    compare (a :: as) (b :: bs) = (compare a b).then (compare as bs) := by
  rw [List.compare_eq_compareLex, List.compareLex_cons_cons]

theorem compare_append_left [Std.ReflOrd α] (start as bs : List α) :
    compare (start ++ as) (start ++ bs) = compare as bs := by
  induction start with
  | nil => rfl
  | cons a start ih =>
      rw [List.cons_append, List.cons_append, compare_cons_cons, Std.ReflOrd.compare_self, ih,
        Ordering.eq_then]

theorem compare_singleton (a b : α) : compare [a] [b] = compare a b := by
  rw [compare_cons_cons, List.compare_nil_nil, Ordering.then_eq]

end Lists

theorem compare_byte {a b : Nat} (ha : a < 256) (hb : b < 256) :
    compare (UInt8.ofNat a) (UInt8.ofNat b) = compare a b := by
  have first : (UInt8.ofNat a).toNat = a := UInt8.toNat_ofNat_of_lt ha
  have second : (UInt8.ofNat b).toNat = b := UInt8.toNat_ofNat_of_lt hb
  simp only [compare, compareOfLessAndEq, UInt8.lt_iff_toNat_lt, ← UInt8.toNat_inj, first, second]

theorem toNat_val_lt (c : Char) : c.val.toNat < 0x110000 := by
  have valid := c.valid
  simp only [UInt32.isValidChar, Nat.isValidChar] at valid
  omega

/-- Bytes of a smaller character come first, whatever follows the two characters. -/
theorem compare_utf8EncodeChar_append {c d : Char} (h : c < d) (after later : List UInt8) :
    compare (String.utf8EncodeChar c ++ after) (String.utf8EncodeChar d ++ later) = .lt := by
  have less : c.val.toNat < d.val.toNat := h
  have bound := toNat_val_lt d
  -- The digits to base 64 are found one by one: the quotients are quotients of each other.
  have second : ∀ k : Nat, k / 4096 = k / 64 / 64 := by omega
  have third : ∀ k : Nat, k / 262144 = k / 64 / 64 / 64 := by omega
  simp only [String.utf8EncodeChar, second, third]
  generalize c.val.toNat = m at less
  generalize d.val.toNat = n at less bound
  split_ifs <;>
    simp (disch := omega) only [List.cons_append, List.nil_append, compare_cons_cons, compare_byte,
      Ordering.then_eq_lt, Nat.compare_eq_lt, Nat.compare_eq_eq] <;>
    omega

/-- Texts are ordered as their bytes are. -/
theorem compare_utf8 (a b : Text) : compare a.utf8 b.utf8 = compare a b := by
  induction a generalizing b with
  | nil =>
      cases b with
      | nil => rfl
      | cons d b =>
          obtain ⟨byte, more, bytes⟩ :=
            List.exists_cons_of_ne_nil (String.utf8EncodeChar_ne_nil (c := d))
          rw [utf8, utf8, List.flatMap_cons, bytes]
          rfl
  | cons c a ih =>
      cases b with
      | nil =>
          obtain ⟨byte, more, bytes⟩ :=
            List.exists_cons_of_ne_nil (String.utf8EncodeChar_ne_nil (c := c))
          rw [utf8, utf8, List.flatMap_cons, bytes]
          rfl
      | cons d b =>
          rw [compare_cons_cons, utf8, utf8, List.flatMap_cons, List.flatMap_cons]
          rcases lt_trichotomy c d with less | rfl | greater
          · rw [compare_utf8EncodeChar_append less, compare_lt_iff_lt.mpr less, Ordering.lt_then]
          · rw [compare_append_left, Std.ReflOrd.compare_self, Ordering.eq_then]
            exact ih b
          · rw [Std.OrientedOrd.eq_swap, compare_utf8EncodeChar_append greater,
              compare_gt_iff_gt.mpr greater, Ordering.gt_then]
            rfl

/-- A text that comes first has the smaller code point where the two differ first. -/
theorem codePoints_lt {a b : Text} (h : compare a b = .lt) :
    a.map Char.toNat < b.map Char.toNat := by
  induction a generalizing b with
  | nil =>
      cases b with
      | nil => cases h
      | cons d b => exact List.nil_lt_cons _ _
  | cons c a ih =>
      cases b with
      | nil => cases h
      | cons d b =>
          rw [compare_cons_cons, Ordering.then_eq_lt] at h
          rw [List.map_cons, List.map_cons, List.cons_lt_cons_iff]
          rcases h with less | ⟨same, less⟩
          · have smaller : c < d := compare_lt_iff_lt.mp less
            exact .inl smaller
          · exact .inr ⟨congrArg Char.toNat (Std.LawfulEqOrd.eq_of_compare same), ih less⟩

end Injector.Text
