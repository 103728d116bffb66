import Injector.Proofs.JavaType.Parts
/-!
The written form of a type: its classes have their canonical names, and a class with an empty list
of arguments is the class alone. The source name of a type is the text of its written form, in
which a primitive type looks like a class of its name.
-/
namespace Injector

section Forms

/-- A class with some arguments, which is the class alone if there are none. -/
def JavaType.ofClass (name : Text) : List JavaType → JavaType
  | [] => .classType name
  | first :: rest => .parameterized name (first :: rest)

mutual

def JavaType.writtenForm : JavaType → JavaType
  | .classType name => .classType (JavaType.canonical name)
  | .primitive name => .primitive name
  | .parameterized raw arguments =>
      .ofClass (JavaType.canonical raw) (JavaType.writtenForms arguments)
  | .array component => .array component.writtenForm
  | .wildcard bound => .wildcard bound.writtenForm
  | .typeVariable name => .typeVariable name
  | .localClass name anonymous => .localClass name anonymous

def Bound.writtenForm : Bound → Bound
  | .unbounded => .unbounded
  | .subtypesOf type => .subtypesOf type.writtenForm
  | .supertypesOf type => .supertypesOf type.writtenForm

def JavaType.writtenForms : List JavaType → List JavaType
  | [] => []
  | type :: rest => type.writtenForm :: JavaType.writtenForms rest

end

mutual

/-- A type with each primitive type in it replaced by the class of the same name. -/
def JavaType.withoutPrimitives : JavaType → JavaType
  | .primitive name => .classType name
  | .parameterized raw arguments => .parameterized raw (JavaType.allWithoutPrimitives arguments)
  | .array component => .array component.withoutPrimitives
  | .wildcard bound => .wildcard bound.withoutPrimitives
  | .classType name => .classType name
  | .typeVariable name => .typeVariable name
  | .localClass name anonymous => .localClass name anonymous

def Bound.withoutPrimitives : Bound → Bound
  | .unbounded => .unbounded
  | .subtypesOf type => .subtypesOf type.withoutPrimitives
  | .supertypesOf type => .supertypesOf type.withoutPrimitives

def JavaType.allWithoutPrimitives : List JavaType → List JavaType
  | [] => []
  | type :: rest => type.withoutPrimitives :: JavaType.allWithoutPrimitives rest

end

end Forms

section Texts

theorem JavaType.describe_ofClass (raw : Text) (types : List JavaType) :
    (ofClass (canonical raw) types).describe = applied raw (JavaType.describeAll types) := by
  cases types <;> rfl

mutual

theorem JavaType.describe_withoutPrimitives (type : JavaType) :
    type.withoutPrimitives.describe = type.describe := by
  cases type with
  | classType name => rfl
  | primitive name => rfl
  | parameterized raw arguments =>
      rw [JavaType.withoutPrimitives, JavaType.describe, JavaType.describe,
        JavaType.describeAll_allWithoutPrimitives arguments]
  | array component =>
      rw [JavaType.withoutPrimitives, JavaType.describe, JavaType.describe,
        JavaType.describe_withoutPrimitives component]
  | wildcard bound => exact Bound.describe_withoutPrimitives bound
  | typeVariable name => rfl
  | localClass name anonymous => rfl

theorem Bound.describe_withoutPrimitives (bound : Bound) :
    bound.withoutPrimitives.describe = bound.describe := by
  cases bound with
  | unbounded => rfl
  | subtypesOf type =>
      rw [Bound.withoutPrimitives, Bound.describe_subtypesOf, Bound.describe_subtypesOf,
        JavaType.describe_withoutPrimitives type]
  | supertypesOf type =>
      rw [Bound.withoutPrimitives, Bound.describe_supertypesOf, Bound.describe_supertypesOf,
        JavaType.describe_withoutPrimitives type]

theorem JavaType.describeAll_allWithoutPrimitives (types : List JavaType) :
    JavaType.describeAll (JavaType.allWithoutPrimitives types) = JavaType.describeAll types := by
  cases types with
  | nil => rfl
  | cons type rest =>
      rw [JavaType.allWithoutPrimitives, JavaType.describeAll, JavaType.describeAll,
        JavaType.describe_withoutPrimitives type, JavaType.describeAll_allWithoutPrimitives rest]

end

theorem map_eq_ok_iff {ε α β : Type} {f : α → β} {result : Except ε α} {value : β} :
    result.map f = .ok value ↔ ∃ part, result = .ok part ∧ f part = value := by
  cases result <;> simp [Except.map]

theorem JavaType.argumentTexts_cons_eq_ok_iff {type : JavaType} {rest : List JavaType}
    {texts : List Text} :
    JavaType.argumentTexts (type :: rest) = .ok texts ↔
      ∃ text others, type.sourceText true = .ok text ∧ JavaType.argumentTexts rest = .ok others ∧
        text :: others = texts := by
  rw [JavaType.argumentTexts]
  cases type.sourceText true with
  | error cause => simp
  | ok text => simp [map_eq_ok_iff]

mutual

/-- A source text is the text of the written form. -/
theorem JavaType.eq_describe_of_sourceText {isArgument : Bool} {type : JavaType} {text : Text}
    (h : type.sourceText isArgument = .ok text) : text = type.writtenForm.describe := by
  cases type with
  | classType name => exact (Except.ok.inj h).symm
  | primitive name => exact (Except.ok.inj h).symm
  | parameterized raw arguments =>
      obtain ⟨texts, found, rfl⟩ := map_eq_ok_iff.mp h
      rw [JavaType.writtenForm, JavaType.describe_ofClass,
        JavaType.eq_describeAll_of_argumentTexts found]
  | array component =>
      obtain ⟨inner, found, rfl⟩ := map_eq_ok_iff.mp h
      rw [JavaType.writtenForm, JavaType.describe, JavaType.eq_describe_of_sourceText found]
  | wildcard bound =>
      cases isArgument with
      | false => cases h
      | true => exact Bound.eq_describe_of_sourceText h
  | typeVariable name => cases h
  | localClass name anonymous => cases h

theorem Bound.eq_describe_of_sourceText {bound : Bound} {text : Text}
    (h : bound.sourceText = .ok text) : text = bound.writtenForm.describe := by
  cases bound with
  | unbounded => exact (Except.ok.inj h).symm
  | subtypesOf type =>
      obtain ⟨inner, found, rfl⟩ := map_eq_ok_iff.mp h
      rw [Bound.writtenForm, Bound.describe_subtypesOf, JavaType.eq_describe_of_sourceText found]
  | supertypesOf type =>
      obtain ⟨inner, found, rfl⟩ := map_eq_ok_iff.mp h
      rw [Bound.writtenForm, Bound.describe_supertypesOf, JavaType.eq_describe_of_sourceText found]

theorem JavaType.eq_describeAll_of_argumentTexts {types : List JavaType} {texts : List Text}
    (h : JavaType.argumentTexts types = .ok texts) :
    texts = JavaType.describeAll (JavaType.writtenForms types) := by
  cases types with
  | nil => exact (Except.ok.inj h).symm
  | cons type rest =>
      obtain ⟨text, others, first, found, rfl⟩ := JavaType.argumentTexts_cons_eq_ok_iff.mp h
      rw [JavaType.writtenForms, JavaType.describeAll, JavaType.eq_describe_of_sourceText first,
        JavaType.eq_describeAll_of_argumentTexts found]

end

end Texts

section Renaming

theorem JavaType.canonical_canonical (name : Text) :
    canonical (canonical name) = canonical name := by
  rw [canonical, canonical, List.map_map]
  apply List.map_congr_left
  intro c _
  by_cases dollar : c = '$'
  · subst dollar
    rfl
  · simp only [Function.comp_apply, if_neg dollar]

theorem JavaType.applied_canonical (raw : Text) : applied (canonical raw) = applied raw := by
  funext texts
  cases texts with
  | nil => exact canonical_canonical raw
  | cons first rest => rw [applied, applied, canonical_canonical]

theorem JavaType.sourceText_ofClass (isArgument : Bool) (raw : Text) (types : List JavaType) :
    (ofClass raw types).sourceText isArgument =
      (JavaType.argumentTexts types).map (applied raw) := by
  cases types <;> rfl

mutual

/-- The written form has the source text of the type, or it fails for the same cause. -/
theorem JavaType.sourceText_writtenForm (isArgument : Bool) (type : JavaType) :
    type.writtenForm.sourceText isArgument = type.sourceText isArgument := by
  cases type with
  | classType name => exact congrArg Except.ok (JavaType.canonical_canonical name)
  | primitive name => rfl
  | parameterized raw arguments =>
      rw [JavaType.writtenForm, JavaType.sourceText_ofClass, JavaType.applied_canonical,
        JavaType.argumentTexts_writtenForms arguments, JavaType.sourceText]
  | array component =>
      rw [JavaType.writtenForm, JavaType.sourceText, JavaType.sourceText,
        JavaType.sourceText_writtenForm false component]
  | wildcard bound =>
      rw [JavaType.writtenForm, JavaType.sourceText, JavaType.sourceText,
        Bound.sourceText_writtenForm bound]
  | typeVariable name => rfl
  | localClass name anonymous => rfl

theorem Bound.sourceText_writtenForm (bound : Bound) :
    bound.writtenForm.sourceText = bound.sourceText := by
  cases bound with
  | unbounded => rfl
  | subtypesOf type =>
      rw [Bound.writtenForm, Bound.sourceText, Bound.sourceText,
        JavaType.sourceText_writtenForm false type]
  | supertypesOf type =>
      rw [Bound.writtenForm, Bound.sourceText, Bound.sourceText,
        JavaType.sourceText_writtenForm false type]

theorem JavaType.argumentTexts_writtenForms (types : List JavaType) :
    JavaType.argumentTexts (JavaType.writtenForms types) = JavaType.argumentTexts types := by
  cases types with
  | nil => rfl
  | cons type rest =>
      rw [JavaType.writtenForms, JavaType.argumentTexts, JavaType.argumentTexts,
        JavaType.sourceText_writtenForm true type, JavaType.argumentTexts_writtenForms rest]

end

end Renaming

/-- The source name of a type in which no part stands in the way is the text of its written form in
diagnostics, and other types have no source name. A type that is brought to its written form first
is named the same, or fails for the same cause. -/
theorem JavaType.sourceName_describes_writtenForm (type : JavaType) :
    (∀ text, type.sourceName = .ok text ↔
      (∀ part ∈ type.parts, part.obstacle? = none) ∧ text = type.writtenForm.describe) ∧
    type.writtenForm.sourceName =
      type.sourceName.mapError fun failure => ⟨type.writtenForm, failure.cause⟩ := by
  constructor
  · intro text
    rw [sourceName_eq_ok_iff, ← exists_sourceText_iff]
    constructor
    · intro named
      exact ⟨⟨text, named⟩, eq_describe_of_sourceText named⟩
    · rintro ⟨⟨other, named⟩, rfl⟩
      rw [named, eq_describe_of_sourceText named]
  · rw [sourceName, sourceName, sourceText_writtenForm]
    cases type.sourceText false <;> rfl

-- Names inside arrays, bounds and empty argument lists are written like all others.
example :
    let entry : JavaType := .parameterized "Map$Entry".toList [.primitive "$".toList,
      .wildcard (.supertypesOf (.array (.parameterized "a.B$C".toList [])))]
    entry.sourceName = .ok "Map.Entry<$, ? super a.B.C[]>".toList ∧
      entry.describe = "Map$Entry<$, ? super a.B$C<>[]>".toList :=
  ⟨rfl, rfl⟩

end Injector
