import Injector.Proofs.AccessorNames.Request
import Injector.Proofs.JavaType.WrittenForm
import Injector.Proofs.Text.Words
/-!
Names and source text. The text of a type in diagnostics and its source name differ in characters
that belong to no word, so a key is named as if its type were read off the generated source.
-/
namespace Injector

section Words

open Text (words)

theorem JavaType.words_canonical (name : Text) : words (canonical name) = words name := by
  refine Text.words_map (fun c => ?_) name
  by_cases dollar : c = '$'
  · subst dollar
    exact .inr ⟨rfl, rfl⟩
  · exact .inl (if_neg dollar)

/-- Brackets and commas keep the words of a class apart from those of its arguments. -/
theorem Text.words_bracketed (text : Text) (parts : List Text) :
    words (text ++ '<' :: commaList parts ++ ['>']) = words text ++ parts.flatMap words := by
  rw [List.append_assoc, List.cons_append, words_append_cons rfl, words_append_cons rfl,
    words_commaList]
  exact congrArg (words text ++ ·) (List.append_nil _)

theorem JavaType.words_applied (raw : Text) (texts : List Text) :
    words (applied raw texts) = words raw ++ texts.flatMap words := by
  cases texts with
  | nil => rw [applied, words_canonical, List.flatMap_nil, List.append_nil]
  | cons first rest => rw [applied, Text.words_bracketed, words_canonical]

theorem Bound.words_subtypesOf (type : JavaType) :
    words (subtypesOf type).describe = words "? extends".toList ++ words type.describe :=
  Text.words_append_cons rfl "? extends".toList type.describe

theorem Bound.words_supertypesOf (type : JavaType) :
    words (supertypesOf type).describe = words "? super".toList ++ words type.describe :=
  Text.words_append_cons rfl "? super".toList type.describe

-- Whatever is written after a type, or before one, is set off from its words by a break.
mutual

theorem JavaType.words_writtenForm (type : JavaType) :
    words type.writtenForm.describe = words type.describe := by
  cases type with
  | classType name => exact JavaType.words_canonical name
  | primitive name => rfl
  | parameterized raw arguments =>
      rw [JavaType.writtenForm, JavaType.describe_ofClass, JavaType.words_applied, JavaType.describe,
        Text.words_bracketed, JavaType.words_writtenForms arguments]
  | array component =>
      rw [JavaType.writtenForm, JavaType.describe, JavaType.describe,
        Text.words_append_cons rfl, Text.words_append_cons rfl,
        JavaType.words_writtenForm component]
  | wildcard bound => exact Bound.words_writtenForm bound
  | typeVariable name => rfl
  | localClass name anonymous => rfl

theorem Bound.words_writtenForm (bound : Bound) :
    words bound.writtenForm.describe = words bound.describe := by
  cases bound with
  | unbounded => rfl
  | subtypesOf type =>
      rw [Bound.writtenForm, Bound.words_subtypesOf, Bound.words_subtypesOf,
        JavaType.words_writtenForm type]
  | supertypesOf type =>
      rw [Bound.writtenForm, Bound.words_supertypesOf, Bound.words_supertypesOf,
        JavaType.words_writtenForm type]

theorem JavaType.words_writtenForms (types : List JavaType) :
    (JavaType.describeAll (JavaType.writtenForms types)).flatMap words =
      (JavaType.describeAll types).flatMap words := by
  cases types with
  | nil => rfl
  | cons type rest =>
      rw [JavaType.writtenForms, JavaType.describeAll, JavaType.describeAll, List.flatMap_cons,
        List.flatMap_cons, JavaType.words_writtenForm type, JavaType.words_writtenForms rest]

end

end Words

namespace AccessorNames

/-- What a key with some qualifier tells about itself, if its type goes by some text. -/
def keyTextBy (typeText : Text) : Qualifier → Text
  | .unqualified => typeText
  | qualifier => typeText ++ '_' :: qualifier.describe

theorem keyText_eq (key : Key) : keyText key = keyTextBy key.type.describe key.qualifier := by
  obtain ⟨type, qualifier⟩ := key
  cases qualifier <;> rfl

theorem underscored_keyTextBy {typeText other : Text} (h : Text.words typeText = Text.words other)
    (qualifier : Qualifier) :
    Text.underscored (keyTextBy typeText qualifier) =
      Text.underscored (keyTextBy other qualifier) := by
  have apart : ∀ text more, Text.words (text ++ '_' :: more) = Text.words text ++ Text.words more :=
    Text.words_append_cons rfl
  cases qualifier with
  | unqualified => rw [keyTextBy, keyTextBy, Text.underscored, Text.underscored, h]
  | _ => simp only [keyTextBy, Text.underscored, apart, h]

/-- A type and its source name, if it has one, lend the same words to an identifier. So the name that
a key gets is the one that it would get if its type went by its source name: under whatever start,
with whatever qualifier and next to whatever other names. -/
theorem request_by_sourceName {type : JavaType} {text : Text} (named : type.sourceName = .ok text) :
    Text.underscored type.describe = Text.underscored text ∧
      ∀ (names : AccessorNames) (qualifier : Qualifier),
        (names.request ⟨type, qualifier⟩).1 =
          (names.name? ⟨type, qualifier⟩).getD
            (freshName names.used
              (names.start ++ Text.underscored (keyTextBy text qualifier))) := by
  have same : Text.words type.describe = Text.words text := by
    rw [JavaType.eq_describe_of_sourceText (JavaType.sourceName_eq_ok_iff.mp named)]
    exact (JavaType.words_writtenForm type).symm
  refine ⟨congrArg ['_'].intercalate same, fun names qualifier => ?_⟩
  cases known : names.name? ⟨type, qualifier⟩ with
  | some name => rw [request_of_some known, Option.getD_some]
  | none =>
      rw [request_of_none known, Option.getD_none, baseName, keyText_eq,
        underscored_keyTextBy same]

/-- The two texts of a type may differ in a dollar sign, which may be the name of a type, and in an
empty list of arguments. -/
theorem request_by_sourceName_entry :
    let entry : JavaType := .parameterized "Map$Entry".toList [.primitive "$".toList,
      .wildcard (.supertypesOf (.array (.parameterized "a.B$C".toList [])))]
    let text := "Map.Entry<$, ? super a.B.C[]>".toList
    entry.sourceName = .ok text ∧
      Text.underscored entry.describe = Text.underscored text ∧
      ((startingWith defaultStart).request (.markedWith entry "Blue".toList)).1 =
        "get_Map_Entry_super_a_B_C_Blue".toList := by
  intro entry text
  have named : entry.sourceName = .ok text := rfl
  obtain ⟨same, answer⟩ := request_by_sourceName named
  refine ⟨named, same, (answer (startingWith defaultStart) (.marked "Blue".toList)).trans ?_⟩
  decide

end AccessorNames

end Injector
