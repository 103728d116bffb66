import Injector.Text.Quoted
/-!
Annotations on a dependency: an annotation type with values for its elements.
The values are kept in the order of their elements, so equal annotations have one form.
-/
namespace Injector

/-- Values for the elements of an annotation, one for each element, in the order of elements. -/
structure ElementValues where
  entries : List (Text × Text)
  sorted : entries.Pairwise fun a b => compare a.1 b.1 = .lt
  deriving DecidableEq

namespace ElementValues

def empty : ElementValues :=
  ⟨[], .nil⟩

/-- Entries with a value put in its place; it replaces a value of the same element. -/
def place (element value : Text) : List (Text × Text) → List (Text × Text)
  | [] => [(element, value)]
  | entry :: rest =>
      match compare element entry.1 with
      | .lt => (element, value) :: entry :: rest
      | .eq => (element, value) :: rest
      | .gt => entry :: place element value rest

/-- An element of the entries after `place` had a value before or is the one given. -/
theorem fst_of_mem_place {element value : Text} {entry : Text × Text} :
    ∀ {entries : List (Text × Text)}, entry ∈ place element value entries →
      entry.1 = element ∨ entry ∈ entries
  | [], h => by
      rw [place, List.mem_singleton] at h
      exact .inl (h ▸ rfl)
  | first :: rest, h => by
      rw [place] at h
      split at h
      · rcases List.mem_cons.mp h with rfl | h
        · exact .inl rfl
        · exact .inr h
      · rcases List.mem_cons.mp h with rfl | h
        · exact .inl rfl
        · exact .inr (List.mem_cons_of_mem _ h)
      · rcases List.mem_cons.mp h with rfl | h
        · exact .inr List.mem_cons_self
        · exact (fst_of_mem_place h).imp id (List.mem_cons_of_mem _)

theorem place_sorted (element value : Text) {entries : List (Text × Text)}
    (h : entries.Pairwise fun a b => compare a.1 b.1 = .lt) :
    (place element value entries).Pairwise fun a b => compare a.1 b.1 = .lt := by
  induction entries with
  | nil => exact List.pairwise_singleton _ _
  | cons first rest ih =>
      obtain ⟨before, sorted⟩ := List.pairwise_cons.mp h
      rw [place]
      split
      next lt =>
        refine List.pairwise_cons.mpr ⟨fun entry mem => ?_, h⟩
        rcases List.mem_cons.mp mem with rfl | mem
        · exact lt
        · exact Std.TransCmp.lt_trans lt (before entry mem)
      next eq =>
        have same : element = first.1 := Std.LawfulEqCmp.eq_of_compare eq
        exact List.pairwise_cons.mpr ⟨fun entry mem => same ▸ before entry mem, sorted⟩
      next gt =>
        refine List.pairwise_cons.mpr ⟨fun entry mem => ?_, ih sorted⟩
        rcases fst_of_mem_place mem with same | mem
        · exact same ▸ Std.OrientedCmp.lt_of_gt gt
        · exact before entry mem

def set (values : ElementValues) (element value : Text) : ElementValues :=
  ⟨place element value values.entries, place_sorted element value values.sorted⟩

def get? (values : ElementValues) (element : Text) : Option Text :=
  values.entries.lookup element

/-- Entries are ordered by element and then by value. -/
def orderEntries (a b : Text × Text) : Ordering :=
  (compare a.1 b.1).then (compare a.2 b.2)

instance : Ord ElementValues :=
  ⟨fun a b => List.compareLex orderEntries a.entries b.entries⟩

end ElementValues

/-- An annotation: its type, and the values of its elements. -/
structure AnnotationUse where
  annotationType : Text
  values : ElementValues
  deriving DecidableEq

namespace AnnotationUse

def ofType (annotationType : Text) : AnnotationUse :=
  ⟨annotationType, .empty⟩

def withValue (use : AnnotationUse) (element value : Text) : AnnotationUse :=
  { use with values := use.values.set element value }

/-- The annotation that tells dependencies of one type apart by a name. -/
def named (name : Text) : AnnotationUse :=
  (ofType "com.google.inject.name.Named".toList).withValue "value".toList (Text.quoted name)

def value? (use : AnnotationUse) (element : Text) : Option Text :=
  use.values.get? element

def describe (use : AnnotationUse) : Text :=
  '@' :: use.annotationType ++ '(' ::
    Text.commaList (use.values.entries.map fun entry => entry.1 ++ '=' :: entry.2) ++ [')']

instance : Ord AnnotationUse :=
  ⟨fun a b => (compare a.annotationType b.annotationType).then (compare a.values b.values)⟩

end AnnotationUse

end Injector
