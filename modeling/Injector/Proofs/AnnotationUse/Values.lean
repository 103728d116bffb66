import Injector.Key
import Injector.Proofs.Entries
import Injector.Proofs.Text.Quoted
import Mathlib.Data.List.Nodup
import Mathlib.Tactic.SplitIfs
/-!
Values of elements are known by what is found under each element: setting one changes what is found
there and nothing else, and values with the same contents are the same. A name is such a value, and
annotations tell names apart.
-/
namespace Injector.ElementValues

variable {element value : Text}

theorem lookup_place (element value other : Text) (entries : List (Text × Text)) :
    (place element value entries).lookup other =
      if other = element then some value else entries.lookup other := by
  induction entries with
  | nil => exact Entries.lookup_cons_eq_ite (element, value) [] other
  | cons entry rest ih =>
      rw [place]
      split
      next => exact Entries.lookup_cons_eq_ite (element, value) (entry :: rest) other
      next same =>
        obtain rfl := Std.LawfulEqCmp.eq_of_compare same
        rw [Entries.lookup_cons_eq_ite, Entries.lookup_cons_eq_ite]
        split_ifs <;> rfl
      next greater =>
        have differ : entry.1 ≠ element := by
          rintro rfl
          rw [Std.ReflOrd.compare_self] at greater
          cases greater
        rw [Entries.lookup_cons_eq_ite, ih, Entries.lookup_cons_eq_ite]
        split_ifs with first here
        · exact absurd (first.symm.trans here) differ
        all_goals rfl

theorem get?_set (values : ElementValues) (element value other : Text) :
    (values.set element value).get? other =
      if other = element then some value else values.get? other :=
  lookup_place element value other values.entries

theorem names_nodup (values : ElementValues) : (values.entries.map (·.1)).Nodup := by
  refine List.pairwise_map.mpr (values.sorted.imp fun less same => ?_)
  rw [same, Std.ReflOrd.compare_self] at less
  cases less

theorem mem_entries_iff (values : ElementValues) :
    (element, value) ∈ values.entries ↔ values.get? element = some value :=
  (Entries.lookup_eq_some_iff_mem values.names_nodup).symm

theorem eq_of_get? {values others : ElementValues}
    (same : ∀ element, values.get? element = others.get? element) : values = others := by
  have members : ∀ entry, entry ∈ values.entries ↔ entry ∈ others.entries := by
    rintro ⟨element, value⟩
    rw [mem_entries_iff, mem_entries_iff, same]
  have perm : values.entries.Perm others.entries :=
    (List.perm_ext_iff_of_nodup values.names_nodup.of_map others.names_nodup.of_map).mpr members
  have entries : values.entries = others.entries := by
    refine perm.eq_of_pairwise (fun a b _ _ less back => ?_) values.sorted others.sorted
    have greater := Std.OrientedCmp.gt_of_lt less
    rw [back] at greater
    cases greater
  cases values
  cases others
  cases entries
  rfl

theorem set_comm (values : ElementValues) {a b : Text} (differ : a ≠ b) (x y : Text) :
    (values.set a x).set b y = (values.set b y).set a x := by
  refine eq_of_get? fun element => ?_
  rw [get?_set, get?_set, get?_set, get?_set]
  split_ifs with first second
  · exact absurd (second.symm.trans first) differ
  all_goals rfl

end Injector.ElementValues

/-! Annotations that tell dependencies apart by a name. The name is quoted in the value of the
annotation, and no two names are quoted alike, whatever characters they are made of and whichever
of these are written as they are. -/

namespace Injector.AnnotationUse

/-- The annotation with a name, where some characters of a quoted text are plain. -/
def namedBy (plain : Char → Bool) (name : Text) : AnnotationUse :=
  (ofType "com.google.inject.name.Named".toList).withValue "value".toList
    (Text.quotedBy plain name)

theorem value?_namedBy (plain : Char → Bool) (name : Text) :
    (namedBy plain name).value? "value".toList = some (Text.quotedBy plain name) := by
  rw [namedBy, value?, withValue, ElementValues.get?_set, if_pos rfl]

theorem namedBy_injective (plain : Char → Bool) : Function.Injective (namedBy plain) := by
  intro name other same
  have values := congrArg (value? · "value".toList) same
  simp only [value?_namedBy, Option.some.injEq] at values
  exact Text.quotedBy_injective plain values

/-- Annotations with names are equal exactly if the names are, and so are the keys of a type that
have them. The stored value is the name between double quotes, on one line and without a quote
inside that is not marked, and undoing its escapes gives the name back. All this holds whichever
characters are taken for plain ones. -/
theorem named_tells_names_apart :
    named = namedBy Text.isPlain ∧
      ∀ plain : Char → Bool,
        (∀ name other, namedBy plain name = namedBy plain other ↔ name = other) ∧
        (∀ type name other,
          Key.annotatedWith type (namedBy plain name) =
            Key.annotatedWith type (namedBy plain other) ↔ name = other) ∧
        ∀ name, ∃ inner,
          (namedBy plain name).value? "value".toList = some ('"' :: inner ++ ['"']) ∧
          '\n' ∉ inner ∧ Text.hasBareQuote inner = false ∧ Text.unescaped? inner = some name := by
  refine ⟨rfl, fun plain => ⟨fun name other => (namedBy_injective plain).eq_iff, ?_,
    fun name => ?_⟩⟩
  · exact fun type name other => Key.annotatedWith_inj.trans (namedBy_injective plain).eq_iff
  · exact ⟨Text.quotedInner plain name, value?_namedBy plain name,
      Text.newline_not_mem_quotedInner plain name, Text.hasBareQuote_quotedInner plain name,
      Text.unescaped?_quotedInner plain name⟩

-- A name that reads like an escape has its backslash marked; a character that is drawn onto the one
-- before it is written by its code point.
example :
    (named "\\u\x7be9\x7d".toList).describe =
        "@com.google.inject.name.Named(value=\"\\\\u\x7be9\x7d\")".toList ∧
      (named ['\u0301']).describe =
        "@com.google.inject.name.Named(value=\"\\u\x7b301\x7d\")".toList := by
  decide +kernel

end Injector.AnnotationUse
