import Injector.Proofs.AccessorNames.Ledger
import Injector.Proofs.AnnotationUse.Values
import Injector.Proofs.DependencyGraph.Build
import Injector.Proofs.Text.Utf8
/-!
Annotations that are made by giving values to elements, one after the other. What an element was
given before its last value leaves no trace, nor does the order of the elements, so annotations with
the same values are one annotation for keys, for names and for graphs.
-/
namespace Injector

section Assignments

/-- The value that an element was given last. -/
def lastValue? (assignments : List (Text × Text)) (element : Text) : Option Text :=
  assignments.reverse.lookup element

/-- The same elements are given values, and each of them has the same value in the end. -/
def SameValues (assignments others : List (Text × Text)) : Prop :=
  (∀ element, element ∈ assignments.map (·.1) ↔ element ∈ others.map (·.1)) ∧
    ∀ element ∈ assignments.map (·.1), lastValue? assignments element = lastValue? others element

variable {assignments others : List (Text × Text)}

theorem lastValue?_concat (assignments : List (Text × Text)) (last : Text × Text) (element : Text) :
    lastValue? (assignments ++ [last]) element =
      if element = last.1 then some last.2 else lastValue? assignments element := by
  rw [lastValue?, List.reverse_concat, Entries.lookup_cons_eq_ite, lastValue?]

theorem isSome_lastValue?_iff {element : Text} :
    (lastValue? assignments element).isSome = true ↔ element ∈ assignments.map (·.1) := by
  rw [lastValue?, List.lookup_isSome_iff, List.mem_map]
  simp only [List.mem_reverse, beq_iff_eq]
  exact exists_congr fun _ => and_congr_right fun _ => eq_comm

theorem sameValues_iff :
    SameValues assignments others ↔
      ∀ element, lastValue? assignments element = lastValue? others element := by
  constructor
  · rintro ⟨elements, values⟩ element
    by_cases given : element ∈ assignments.map (·.1)
    · exact values element given
    · have absent := given
      rw [elements] at absent
      rw [← isSome_lastValue?_iff, Option.not_isSome_iff_eq_none] at given absent
      rw [given, absent]
  · intro same
    refine ⟨fun element => ?_, fun element _ => same element⟩
    rw [← isSome_lastValue?_iff, same, isSome_lastValue?_iff]

end Assignments

namespace AnnotationUse

/-- The annotation of a type after some elements were given values, in order. -/
def assigning (annotationType : Text) (assignments : List (Text × Text)) : AnnotationUse :=
  assignments.foldl (fun use assignment => use.withValue assignment.1 assignment.2)
    (ofType annotationType)

section Canonical

variable {annotationType : Text}

theorem assigning_concat (annotationType : Text) (assignments : List (Text × Text))
    (last : Text × Text) :
    assigning annotationType (assignments ++ [last]) =
      (assigning annotationType assignments).withValue last.1 last.2 := by
  rw [assigning, List.foldl_concat, assigning]

theorem annotationType_assigning (annotationType : Text) (assignments : List (Text × Text)) :
    (assigning annotationType assignments).annotationType = annotationType := by
  induction assignments using List.reverseRecOn with
  | nil => rfl
  | append_singleton assignments last ih =>
      rw [assigning_concat]
      exact ih

/-- The last value wins. -/
theorem value?_assigning (annotationType : Text) (assignments : List (Text × Text))
    (element : Text) :
    (assigning annotationType assignments).value? element = lastValue? assignments element := by
  induction assignments using List.reverseRecOn with
  | nil => rfl
  | append_singleton assignments last ih =>
      rw [assigning_concat, lastValue?_concat, ← ih]
      exact ElementValues.get?_set _ _ _ _

theorem assigning_eq_iff {assignments others : List (Text × Text)} :
    assigning annotationType assignments = assigning annotationType others ↔
      SameValues assignments others := by
  rw [sameValues_iff]
  constructor
  · intro same element
    rw [← value?_assigning annotationType, same, value?_assigning]
  · intro same
    have values : (assigning annotationType assignments).values =
        (assigning annotationType others).values := by
      refine ElementValues.eq_of_get? fun element => ?_
      have found := same element
      rw [← value?_assigning annotationType, ← value?_assigning annotationType] at found
      exact found
    rw [AnnotationUse.mk.injEq, annotationType_assigning, annotationType_assigning]
    exact ⟨rfl, values⟩

end Canonical

/-- The values are listed in the order of their elements, each element once. -/
theorem describe_assigning (annotationType : Text) (assignments : List (Text × Text)) :
    ∃ entries : List (Text × Text),
      entries.Pairwise (fun a b => a.1.map Char.toNat < b.1.map Char.toNat) ∧
      (∀ element value, (element, value) ∈ entries ↔
        lastValue? assignments element = some value) ∧
      (assigning annotationType assignments).describe =
        '@' :: annotationType ++ '(' ::
          Text.commaList (entries.map fun entry => entry.1 ++ '=' :: entry.2) ++ [')'] := by
  refine ⟨(assigning annotationType assignments).values.entries, ?_, fun element value => ?_, ?_⟩
  · exact (ElementValues.sorted _).imp Text.codePoints_lt
  · rw [ElementValues.mem_entries_iff, ← value?_assigning annotationType]
    exact Iff.rfl
  · rw [describe, annotationType_assigning]

/-- Two annotations that are made by giving values to elements, in whatever order and with whatever
values in between, are the same exactly if each element has the same last value in both. They are
then described alike, by the last values of their elements in the order of code points. Keys of a
type that have them share one accessor name, whatever names were given before, and one node of
every graph, and otherwise they share neither. -/
theorem assigning_leaves_last_values {ε ω : Type} (annotationType : Text)
    (assignments others : List (Text × Text)) :
    let use := assigning annotationType assignments
    let other := assigning annotationType others
    (use = other ↔ SameValues assignments others) ∧
      (SameValues assignments others → use.describe = other.describe) ∧
      (∃ entries : List (Text × Text),
        entries.Pairwise (fun a b => a.1.map Char.toNat < b.1.map Char.toNat) ∧
        (∀ element value, (element, value) ∈ entries ↔
          lastValue? assignments element = some value) ∧
        use.describe =
          '@' :: annotationType ++ '(' ::
            Text.commaList (entries.map fun entry => entry.1 ++ '=' :: entry.2) ++ [')']) ∧
      ∀ type,
        let key := Key.annotatedWith type use
        let otherKey := Key.annotatedWith type other
        (SameValues assignments others →
          (∀ names : AccessorNames,
            (names.request key).2.request otherKey = names.request key) ∧
          ∀ graph : DependencyGraph,
            (graph.withNode key).2.withNode otherKey = graph.withNode key) ∧
        (∀ start (uses : List (Ledger.Use ε ω)) name otherName,
          (key, name) ∈ (Ledger.run start uses).answers →
          (otherKey, otherName) ∈ (Ledger.run start uses).answers →
            (name = otherName ↔ SameValues assignments others)) ∧
        ∀ additions node otherNode,
          (DependencyGraph.build additions).node? key = some node →
          (DependencyGraph.build additions).node? otherKey = some otherNode →
            (node = otherNode ↔ SameValues assignments others) := by
  intro use other
  have uses_eq : use = other ↔ SameValues assignments others := assigning_eq_iff
  refine ⟨uses_eq, fun same => congrArg describe (uses_eq.mpr same),
    describe_assigning annotationType assignments, fun type => ?_⟩
  intro key otherKey
  have keys_eq : key = otherKey ↔ SameValues assignments others :=
    Key.annotatedWith_inj.trans uses_eq
  refine ⟨fun same => ?_, fun start uses name otherName found foundOther => ?_,
    fun additions node otherNode found foundOther => ?_⟩
  · rw [← keys_eq.mpr same]
    exact ⟨fun names => AccessorNames.request_of_some (AccessorNames.name?_request_self names key),
      fun graph => DependencyGraph.withNode_of_some (DependencyGraph.node?_withNode_self key)⟩
  · rw [← keys_eq]
    exact (Ledger.sound_run start uses).answers_eq_iff found foundOther
  · rw [← keys_eq]
    exact (DependencyGraph.holds_build additions).indexed.node_eq_iff found foundOther

example :
    (assigning "A".toList [("b".toList, "1".toList), ("a".toList, "2".toList),
      ("b".toList, "3".toList)]).describe = "@A(a=2, b=3)".toList := by
  decide

end AnnotationUse

end Injector
