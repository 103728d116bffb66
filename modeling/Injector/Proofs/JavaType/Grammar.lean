import Injector.Proofs.JavaType.Reading
/-!
The grammar of types in source text. A source name belongs to it exactly if every name in it fits
its place: it must be a qualified name, and where only a class can be named, as an argument, as a
bound or before arguments, it must not be the name of a primitive type. Nothing in the rules for
source names sees to that, so there are types whose source names are outside the grammar.
-/
namespace Injector

section Phrases

def isIdentifierPart (c : Char) : Bool :=
  c.isAlphanum || c == '_' || c == '$'

def isIdentifier : Text → Bool
  | [] => false
  | c :: rest => !c.isDigit && (c :: rest).all isIdentifierPart

/-- Identifiers, joined by dots. -/
def isQualifiedName (name : Text) : Bool :=
  (name.splitOn '.').all isIdentifier

/-- The names of the primitive types of the language. -/
def primitiveNames : List Text :=
  ["boolean", "byte", "char", "short", "int", "long", "float", "double"].map String.toList

inductive Phrase where
  | type
  | reference
  | argument
  | arguments

/-- The texts of phrases. Reserved words are no names of classes. -/
inductive IsPhrase (reserved : List Text) : Phrase → Text → Prop
  | primitive {name : Text} : name ∈ primitiveNames → IsPhrase reserved .type name
  | reference {text : Text} : IsPhrase reserved .reference text → IsPhrase reserved .type text
  | named {name : Text} : isQualifiedName name = true → name ∉ reserved →
      IsPhrase reserved .reference name
  | applied {name text : Text} : isQualifiedName name = true → name ∉ reserved →
      IsPhrase reserved .arguments text →
      IsPhrase reserved .reference (name ++ '<' :: (text ++ ['>']))
  | array {text : Text} : IsPhrase reserved .type text →
      IsPhrase reserved .reference (text ++ ['[', ']'])
  | plain {text : Text} : IsPhrase reserved .reference text → IsPhrase reserved .argument text
  | unbounded : IsPhrase reserved .argument ['?']
  | subtypesOf {text : Text} : IsPhrase reserved .reference text →
      IsPhrase reserved .argument ("? extends ".toList ++ text)
  | supertypesOf {text : Text} : IsPhrase reserved .reference text →
      IsPhrase reserved .argument ("? super ".toList ++ text)
  | last {text : Text} : IsPhrase reserved .argument text → IsPhrase reserved .arguments text
  | next {text others : Text} : IsPhrase reserved .argument text →
      IsPhrase reserved .arguments others →
      IsPhrase reserved .arguments (text ++ ", ".toList ++ others)

end Phrases

section Places

/-- A name in a type, and whether only a class can be named where it stands. -/
structure NamePlace where
  name : Text
  ofClass : Bool

def NamePlace.Fits (reserved : List Text) (place : NamePlace) : Prop :=
  isQualifiedName place.name = true ∧ (place.ofClass = true → place.name ∉ reserved)

instance (reserved : List Text) (place : NamePlace) : Decidable (place.Fits reserved) :=
  inferInstanceAs (Decidable (_ ∧ _))

mutual

/-- The names in a type, in order; the type stands where any type or where only a class can. -/
def JavaType.namesAt (ofClass : Bool) : JavaType → List NamePlace
  | .classType name => [⟨name, ofClass⟩]
  | .primitive name => [⟨name, ofClass⟩]
  | .parameterized raw arguments => ⟨raw, true⟩ :: JavaType.argumentNames arguments
  | .array component => component.namesAt false
  | .wildcard bound => bound.names
  | .typeVariable _ => []
  | .localClass _ _ => []

def Bound.names : Bound → List NamePlace
  | .unbounded => []
  | .subtypesOf type => type.namesAt true
  | .supertypesOf type => type.namesAt true

def JavaType.argumentNames : List JavaType → List NamePlace
  | [] => []
  | type :: rest => type.namesAt true ++ JavaType.argumentNames rest

end

mutual

theorem JavaType.namesAt_withoutPrimitives (ofClass : Bool) (type : JavaType) :
    type.withoutPrimitives.namesAt ofClass = type.namesAt ofClass := by
  cases type with
  | classType name => rfl
  | primitive name => rfl
  | parameterized raw arguments =>
      rw [JavaType.withoutPrimitives, JavaType.namesAt, JavaType.namesAt,
        JavaType.argumentNames_allWithoutPrimitives arguments]
  | array component =>
      rw [JavaType.withoutPrimitives, JavaType.namesAt, JavaType.namesAt,
        JavaType.namesAt_withoutPrimitives false component]
  | wildcard bound => exact Bound.names_withoutPrimitives bound
  | typeVariable name => rfl
  | localClass name anonymous => rfl

theorem Bound.names_withoutPrimitives (bound : Bound) :
    bound.withoutPrimitives.names = bound.names := by
  cases bound with
  | unbounded => rfl
  | subtypesOf type => exact JavaType.namesAt_withoutPrimitives true type
  | supertypesOf type => exact JavaType.namesAt_withoutPrimitives true type

theorem JavaType.argumentNames_allWithoutPrimitives (types : List JavaType) :
    JavaType.argumentNames (JavaType.allWithoutPrimitives types) =
      JavaType.argumentNames types := by
  cases types with
  | nil => rfl
  | cons type rest =>
      rw [JavaType.allWithoutPrimitives, JavaType.argumentNames, JavaType.argumentNames,
        JavaType.namesAt_withoutPrimitives true type,
        JavaType.argumentNames_allWithoutPrimitives rest]

end

end Places

section Writing

variable {reserved : List Text}

/-- What can stand in a place. -/
def Phrase.inPlace (ofClass : Bool) : Phrase :=
  if ofClass then .reference else .type

theorem IsPhrase.inPlace {text : Text} (h : IsPhrase reserved .reference text) (ofClass : Bool) :
    IsPhrase reserved (.inPlace ofClass) text := by
  cases ofClass with
  | false => exact .reference h
  | true => exact h

theorem isPhrase_of_fits {name : Text} {ofClass : Bool} (words : reserved ⊆ primitiveNames)
    (fits : NamePlace.Fits reserved ⟨name, ofClass⟩) :
    IsPhrase reserved (.inPlace ofClass) name := by
  obtain ⟨qualified, free⟩ := fits
  cases ofClass with
  | true => exact .named qualified (free rfl)
  | false =>
      by_cases word : name ∈ reserved
      · exact .primitive (words word)
      · exact .reference (.named qualified word)

-- The recursion is that of the source text.
mutual

theorem JavaType.isPhrase_sourceText {type : JavaType} {text : Text} {ofClass : Bool}
    (words : reserved ⊆ primitiveNames) (named : type.sourceText false = .ok text)
    (fits : ∀ place ∈ type.writtenForm.namesAt ofClass, place.Fits reserved) :
    IsPhrase reserved (.inPlace ofClass) text := by
  cases type with
  | classType name =>
      obtain rfl := Except.ok.inj named
      exact isPhrase_of_fits words (List.forall_mem_singleton.mp fits)
  | primitive name =>
      obtain rfl := Except.ok.inj named
      exact isPhrase_of_fits words (List.forall_mem_singleton.mp fits)
  | parameterized raw arguments =>
      obtain ⟨texts, found, rfl⟩ := map_eq_ok_iff.mp named
      cases arguments with
      | nil =>
          obtain rfl := Except.ok.inj found
          exact isPhrase_of_fits words (List.forall_mem_singleton.mp fits)
      | cons first others =>
          obtain ⟨⟨qualified, free⟩, inner⟩ := List.forall_mem_cons.mp fits
          have list := JavaType.isPhrase_argumentTexts words (List.cons_ne_nil first others)
            found inner
          rw [JavaType.applied_of_argumentTexts found]
          exact (IsPhrase.applied qualified (free rfl) list).inPlace ofClass
  | array component =>
      obtain ⟨inner, found, rfl⟩ := map_eq_ok_iff.mp named
      have component_type : IsPhrase reserved (.inPlace false) inner :=
        JavaType.isPhrase_sourceText words found fits
      exact (IsPhrase.array component_type).inPlace ofClass
  | wildcard bound => cases named
  | typeVariable name => cases named
  | localClass name anonymous => cases named

theorem Bound.isPhrase_sourceText {bound : Bound} {text : Text}
    (words : reserved ⊆ primitiveNames) (named : bound.sourceText = .ok text)
    (fits : ∀ place ∈ bound.writtenForm.names, place.Fits reserved) :
    IsPhrase reserved .argument text := by
  cases bound with
  | unbounded =>
      obtain rfl := Except.ok.inj named
      exact .unbounded
  | subtypesOf type =>
      obtain ⟨inner, found, rfl⟩ := map_eq_ok_iff.mp named
      have bound_type : IsPhrase reserved (.inPlace true) inner :=
        JavaType.isPhrase_sourceText words found fits
      exact .subtypesOf bound_type
  | supertypesOf type =>
      obtain ⟨inner, found, rfl⟩ := map_eq_ok_iff.mp named
      have bound_type : IsPhrase reserved (.inPlace true) inner :=
        JavaType.isPhrase_sourceText words found fits
      exact .supertypesOf bound_type

theorem JavaType.isPhrase_argumentTexts {types : List JavaType} {texts : List Text}
    (words : reserved ⊆ primitiveNames) (some_type : types ≠ [])
    (named : JavaType.argumentTexts types = .ok texts)
    (fits : ∀ place ∈ JavaType.argumentNames (JavaType.writtenForms types), place.Fits reserved) :
    IsPhrase reserved .arguments (Text.commaList texts) := by
  cases types with
  | nil => exact absurd rfl some_type
  | cons type others =>
      obtain ⟨text, rest, first, found, rfl⟩ := JavaType.argumentTexts_cons_eq_ok_iff.mp named
      obtain ⟨here, later⟩ := List.forall_mem_append.mp fits
      have argument : IsPhrase reserved .argument text := by
        have outside : type.sourceText false = .ok text → IsPhrase reserved .argument text := by
          intro named
          have reference : IsPhrase reserved (.inPlace true) text :=
            JavaType.isPhrase_sourceText words named here
          exact .plain reference
        cases type with
        | wildcard bound => exact Bound.isPhrase_sourceText words first here
        | _ => exact outside first
      cases others with
      | nil =>
          obtain rfl := Except.ok.inj found
          rw [Text.commaList, List.intercalate_singleton]
          exact .last argument
      | cons next more =>
          have list := JavaType.isPhrase_argumentTexts words (List.cons_ne_nil next more) found
            later
          obtain ⟨nextText, moreTexts, -, -, rfl⟩ :=
            JavaType.argumentTexts_cons_eq_ok_iff.mp found
          rw [Text.commaList, List.intercalate_cons_cons]
          exact .next argument list

end

end Writing

end Injector
