import Injector.Proofs.JavaType.WrittenForm
import Mathlib.Data.List.Basic
/-!
Reading a source name back. If no name in a type has a character that source names are built with,
then its source name is read back as its written form, with classes for primitive types. So two
such types share a source name only if they are written alike.
-/
namespace Injector

section Reader

/-- A character of a name; all others have a meaning between names. -/
def isNamePart (c : Char) : Bool :=
  !(['<', '>', ',', ' ', '[', ']', '?'].contains c)

/-- Takes the brackets of arrays off the front of a text. -/
def readArrays (type : JavaType) : Text → JavaType × Text
  | '[' :: ']' :: rest => readArrays (.array type) rest
  | rest => (type, rest)

/-- Reads an argument, which is a wildcard or what the given reader reads. -/
def readArgument (readType : Text → Option (JavaType × Text)) (text : Text) :
    Option (JavaType × Text) :=
  if "? extends ".toList <+: text then
    (readType (text.drop "? extends ".toList.length)).map
      fun (type, rest) => (.wildcard (.subtypesOf type), rest)
  else if "? super ".toList <+: text then
    (readType (text.drop "? super ".toList.length)).map
      fun (type, rest) => (.wildcard (.supertypesOf type), rest)
  else if ['?'] <+: text then some (.wildcard .unbounded, text.drop 1)
  else readType text

mutual

/-- Reads a type from the front of a text, down to some depth. -/
def readType : Nat → Text → Option (JavaType × Text)
  | 0, _ => none
  | depth + 1, text =>
      let name := text.takeWhile isNamePart
      match text.dropWhile isNamePart with
      | '<' :: rest =>
          (readArguments depth rest).map
            fun (arguments, rest) => readArrays (.parameterized name arguments) rest
      | rest => some (readArrays (.classType name) rest)

def readArguments : Nat → Text → Option (List JavaType × Text)
  | 0, _ => none
  | depth + 1, text =>
      match readArgument (readType depth) text with
      | some (argument, '>' :: rest) => some ([argument], rest)
      | some (argument, ',' :: ' ' :: rest) =>
          (readArguments depth rest).map fun (others, rest) => (argument :: others, rest)
      | _ => none

end

end Reader

section Names

/-- The name that a type is given by itself; it may be empty. -/
def JavaType.givenName? : JavaType → Option Text
  | .classType name => some name
  | .primitive name => some name
  | .parameterized raw _ => some raw
  | _ => none

/-- The names that are given in some parts of a type have name characters only. -/
def PlainNames (parts : List Part) : Prop :=
  ∀ part ∈ parts, ∀ name ∈ part.type.givenName?, ∀ c ∈ name, isNamePart c = true

-- Characters are gone through by `List.all`: there are too many of them to decide `∀ c` over all.
instance (parts : List Part) : Decidable (PlainNames parts) :=
  decidable_of_iff (∀ part ∈ parts, ∀ name ∈ part.type.givenName?, name.all isNamePart = true) <| by
    simp only [PlainNames, List.all_eq_true]

theorem plainNames_cons {part : Part} {parts : List Part} :
    PlainNames (part :: parts) ↔
      (∀ name ∈ part.type.givenName?, ∀ c ∈ name, isNamePart c = true) ∧ PlainNames parts :=
  List.forall_mem_cons

theorem plainNames_append {parts others : List Part} :
    PlainNames (parts ++ others) ↔ PlainNames parts ∧ PlainNames others :=
  List.forall_mem_append

theorem isNamePart_canonical {name : Text} (h : ∀ c ∈ name, isNamePart c = true) :
    ∀ c ∈ JavaType.canonical name, isNamePart c = true := by
  intro c mem
  obtain ⟨d, inside, rfl⟩ := List.mem_map.mp mem
  split
  · rfl
  · exact h d inside

/-- Whether a text can come after a type. -/
def followsType : Text → Bool
  | [] => true
  | c :: _ => c == '[' || c == ',' || c == '>'

/-- Whether a text can come after an argument. -/
def followsArgument : Text → Bool
  | [] => false
  | c :: _ => c == ',' || c == '>'

theorem followsType_of_followsArgument {rest : Text} (h : followsArgument rest = true) :
    followsType rest = true := by
  cases rest with
  | nil => rfl
  | cons c rest =>
      simp only [followsArgument, Bool.or_eq_true, beq_iff_eq] at h
      rcases h with rfl | rfl <;> rfl

theorem readArrays_of_followsArgument {rest : Text} (h : followsArgument rest = true)
    (type : JavaType) : readArrays type rest = (type, rest) := by
  cases rest with
  | nil => rfl
  | cons c rest =>
      simp only [followsArgument, Bool.or_eq_true, beq_iff_eq] at h
      rcases h with rfl | rfl <;> rfl

/-- A name ends where the first other character stands. -/
theorem split_name {name rest : Text} (plain : ∀ c ∈ name, isNamePart c = true)
    (stop : ∀ c, rest.head? = some c → isNamePart c = false) :
    (name ++ rest).takeWhile isNamePart = name ∧ (name ++ rest).dropWhile isNamePart = rest := by
  rw [List.takeWhile_append_of_pos plain, List.dropWhile_append_of_pos plain]
  cases rest with
  | nil => exact ⟨List.append_nil name, rfl⟩
  | cons c rest => simp [stop c rfl]

theorem isNamePart_of_followsType {rest : Text} (h : followsType rest = true) :
    ∀ c, rest.head? = some c → isNamePart c = false := by
  rintro c head
  cases rest with
  | nil => cases head
  | cons d rest =>
      obtain rfl := Option.some.inj head
      simp only [followsType, Bool.or_eq_true, beq_iff_eq] at h
      rcases h with (rfl | rfl) | rfl <;> rfl

theorem readType_class {name rest : Text} (plain : ∀ c ∈ name, isNamePart c = true)
    (h : followsType rest = true) (depth : Nat) :
    readType (depth + 1) (name ++ rest) = some (readArrays (.classType name) rest) := by
  obtain ⟨before, after⟩ := split_name plain (isNamePart_of_followsType h)
  rw [readType, before, after]
  cases rest with
  | nil => rfl
  | cons c rest =>
      simp only [followsType, Bool.or_eq_true, beq_iff_eq] at h
      rcases h with (rfl | rfl) | rfl <;> rfl

theorem readType_parameterized {name rest after : Text} {arguments : List JavaType} {depth : Nat}
    (plain : ∀ c ∈ name, isNamePart c = true)
    (h : readArguments depth rest = some (arguments, after)) :
    readType (depth + 1) (name ++ '<' :: rest) =
      some (readArrays (.parameterized name arguments) after) := by
  have stop : ∀ c, ('<' :: rest).head? = some c → isNamePart c = false := by
    rintro c ⟨⟩
    rfl
  obtain ⟨before, after⟩ := split_name plain stop
  simp only [readType, before, after, h, Option.map_some]

theorem readArgument_of_head {text : Text} (h : text.head? ≠ some '?')
    (reader : Text → Option (JavaType × Text)) : readArgument reader text = reader text := by
  have other : ∀ mark : Text, mark.head? = some '?' → ¬ mark <+: text := by
    rintro mark head ⟨rest, rfl⟩
    exact h (by rw [List.head?_append, head, Option.some_or])
  rw [readArgument, if_neg (other _ rfl), if_neg (other _ rfl), if_neg (other _ rfl)]

theorem readArgument_subtypesOf {text rest : Text} {type : JavaType}
    {reader : Text → Option (JavaType × Text)} (h : reader text = some (type, rest)) :
    readArgument reader ("? extends ".toList ++ text) =
      some (.wildcard (.subtypesOf type), rest) := by
  rw [readArgument, if_pos (List.prefix_append _ _), List.drop_left, h]
  rfl

theorem readArgument_supertypesOf {text rest : Text} {type : JavaType}
    {reader : Text → Option (JavaType × Text)} (h : reader text = some (type, rest)) :
    readArgument reader ("? super ".toList ++ text) =
      some (.wildcard (.supertypesOf type), rest) := by
  have other : ¬ "? extends ".toList <+: "? super ".toList ++ text := by
    simp [List.cons_prefix_cons]
  rw [readArgument, if_neg other, if_pos (List.prefix_append _ _), List.drop_left, h]
  rfl

theorem readArgument_unbounded {rest : Text} (h : followsArgument rest = true)
    (reader : Text → Option (JavaType × Text)) :
    readArgument reader ('?' :: rest) = some (.wildcard .unbounded, rest) := by
  cases rest with
  | nil => cases h
  | cons c rest =>
      have other : ' ' ≠ c := by
        rintro rfl
        cases h
      have subtypes : ¬ "? extends ".toList <+: '?' :: c :: rest := by
        simp [List.cons_prefix_cons, other]
      have supertypes : ¬ "? super ".toList <+: '?' :: c :: rest := by
        simp [List.cons_prefix_cons, other]
      have alone : ['?'] <+: '?' :: c :: rest := List.prefix_append ['?'] (c :: rest)
      rw [readArgument, if_neg subtypes, if_neg supertypes, if_pos alone, List.drop_one,
        List.tail_cons]

theorem readArguments_last {text rest : Text} {argument : JavaType} {depth : Nat}
    (h : readArgument (readType depth) text = some (argument, '>' :: rest)) :
    readArguments (depth + 1) text = some ([argument], rest) := by
  rw [readArguments, h]
  rfl

theorem readArguments_next {text others rest : Text} {argument : JavaType}
    {arguments : List JavaType} {depth : Nat}
    (h : readArgument (readType depth) text = some (argument, ',' :: ' ' :: others))
    (later : readArguments depth others = some (arguments, rest)) :
    readArguments (depth + 1) text = some (argument :: arguments, rest) := by
  rw [readArguments, h]
  simp only [later, Option.map_some]

end Names

section RoundTrip

theorem commaList_cons_cons_append (text next : Text) (more : List Text) (rest : Text) :
    Text.commaList (text :: next :: more) ++ rest =
      text ++ ',' :: ' ' :: (Text.commaList (next :: more) ++ rest) := by
  rw [Text.commaList_cons_cons, List.append_assoc]
  rfl

theorem head?_name {name rest : Text} (plain : ∀ c ∈ name, isNamePart c = true)
    (h : rest.head? ≠ some '?') : (name ++ rest).head? ≠ some '?' := by
  cases name with
  | nil => exact h
  | cons c name =>
      intro same
      obtain rfl : c = '?' := Option.some.inj same
      exact absurd (plain '?' List.mem_cons_self) (by decide)

theorem head?_of_followsType {rest : Text} (h : followsType rest = true) :
    rest.head? ≠ some '?' := by
  intro same
  cases rest with
  | nil => cases same
  | cons c rest =>
      obtain rfl : c = '?' := Option.some.inj same
      cases h

theorem JavaType.applied_of_argumentTexts {raw : Text} {first : JavaType} {others : List JavaType}
    {texts : List Text} (h : JavaType.argumentTexts (first :: others) = .ok texts) :
    applied raw texts = canonical raw ++ '<' :: (Text.commaList texts ++ ['>']) := by
  obtain ⟨text, rest, -, -, rfl⟩ := JavaType.argumentTexts_cons_eq_ok_iff.mp h
  rw [applied, List.append_assoc, List.cons_append]

/-- The source text of a type outside an argument list does not begin like a wildcard. -/
theorem JavaType.head?_sourceText {type : JavaType} {text rest : Text}
    {isArgument : Bool} (named : type.sourceText false = .ok text)
    (plain : PlainNames (⟨type, isArgument⟩ :: type.innerParts)) (h : followsType rest = true) :
    (text ++ rest).head? ≠ some '?' := by
  have given := (plainNames_cons.mp plain).1
  cases type with
  | classType name =>
      obtain rfl := Except.ok.inj named
      exact head?_name (isNamePart_canonical (given name rfl)) (head?_of_followsType h)
  | primitive name =>
      obtain rfl := Except.ok.inj named
      exact head?_name (given name rfl) (head?_of_followsType h)
  | parameterized raw arguments =>
      obtain ⟨texts, found, rfl⟩ := map_eq_ok_iff.mp named
      have plainRaw := isNamePart_canonical (given raw rfl)
      cases arguments with
      | nil =>
          obtain rfl := Except.ok.inj found
          exact head?_name plainRaw (head?_of_followsType h)
      | cons first others =>
          rw [applied_of_argumentTexts found, List.append_assoc]
          exact head?_name plainRaw (by simp)
  | array component =>
      obtain ⟨inner, found, rfl⟩ := map_eq_ok_iff.mp named
      rw [List.append_assoc]
      exact JavaType.head?_sourceText found (plainNames_cons.mp plain).2 rfl
  | wildcard bound => cases named
  | typeVariable name => cases named
  | localClass name anonymous => cases named

theorem JavaType.readArgument_sourceText {type : JavaType} {text rest : Text} {depth : Nat}
    {isArgument : Bool} (named : type.sourceText false = .ok text)
    (plain : PlainNames (⟨type, isArgument⟩ :: type.innerParts)) (h : followsArgument rest = true)
    (read : readType depth (text ++ rest) =
      some (readArrays type.writtenForm.withoutPrimitives rest)) :
    readArgument (readType depth) (text ++ rest) =
      some (type.writtenForm.withoutPrimitives, rest) := by
  have head := JavaType.head?_sourceText named plain (followsType_of_followsArgument h)
  rw [readArgument_of_head head, read, readArrays_of_followsArgument h]

theorem JavaType.sizeOf_pos (type : JavaType) : 0 < sizeOf type := by
  cases type <;> simp only [classType.sizeOf_spec, primitive.sizeOf_spec,
    parameterized.sizeOf_spec, array.sizeOf_spec, wildcard.sizeOf_spec, typeVariable.sizeOf_spec,
    localClass.sizeOf_spec] <;> omega

-- The recursion is that of the source text. The size of a type is a depth that is enough for it.
mutual

theorem JavaType.readType_sourceText {type : JavaType} {text rest : Text} {depth : Nat}
    {isArgument : Bool} (named : type.sourceText false = .ok text)
    (plain : PlainNames (⟨type, isArgument⟩ :: type.innerParts)) (h : followsType rest = true)
    (enough : sizeOf type ≤ depth) :
    readType depth (text ++ rest) =
      some (readArrays type.writtenForm.withoutPrimitives rest) := by
  obtain ⟨given, inner⟩ := plainNames_cons.mp plain
  obtain ⟨depth, rfl⟩ := Nat.exists_eq_add_of_lt (Nat.lt_of_lt_of_le type.sizeOf_pos enough)
  rw [Nat.zero_add] at enough ⊢
  cases type with
  | classType name =>
      obtain rfl := Except.ok.inj named
      exact readType_class (isNamePart_canonical (given name rfl)) h depth
  | primitive name =>
      obtain rfl := Except.ok.inj named
      exact readType_class (given name rfl) h depth
  | parameterized raw arguments =>
      obtain ⟨texts, found, rfl⟩ := map_eq_ok_iff.mp named
      have plainRaw := isNamePart_canonical (given raw rfl)
      cases arguments with
      | nil =>
          obtain rfl := Except.ok.inj found
          exact readType_class plainRaw h depth
      | cons first others =>
          have read : readArguments depth (Text.commaList texts ++ '>' :: rest) = _ :=
            JavaType.readArguments_argumentTexts (List.cons_ne_nil first others) found inner
              (by rw [JavaType.parameterized.sizeOf_spec] at enough; omega)
          rw [JavaType.applied_of_argumentTexts found, List.append_assoc, List.cons_append,
            List.append_assoc, List.singleton_append, readType_parameterized plainRaw read]
          rfl
  | array component =>
      obtain ⟨innerText, found, rfl⟩ := map_eq_ok_iff.mp named
      rw [JavaType.array.sizeOf_spec] at enough
      rw [List.append_assoc, JavaType.readType_sourceText found inner rfl (by omega)]
      rfl
  | wildcard bound => cases named
  | typeVariable name => cases named
  | localClass name anonymous => cases named

theorem Bound.readArgument_sourceText {bound : Bound} {text rest : Text} {depth : Nat}
    (named : bound.sourceText = .ok text) (plain : PlainNames bound.parts)
    (h : followsArgument rest = true) (enough : sizeOf bound ≤ depth) :
    readArgument (readType depth) (text ++ rest) =
      some (.wildcard bound.writtenForm.withoutPrimitives, rest) := by
  cases bound with
  | unbounded =>
      obtain rfl := Except.ok.inj named
      exact readArgument_unbounded h _
  | subtypesOf type =>
      obtain ⟨inner, found, rfl⟩ := map_eq_ok_iff.mp named
      rw [Bound.subtypesOf.sizeOf_spec] at enough
      have read : readType depth (inner ++ rest) = some (readArrays _ rest) :=
        JavaType.readType_sourceText found plain (followsType_of_followsArgument h) (by omega)
      rw [readArrays_of_followsArgument h] at read
      rw [List.append_assoc, readArgument_subtypesOf read]
      rfl
  | supertypesOf type =>
      obtain ⟨inner, found, rfl⟩ := map_eq_ok_iff.mp named
      rw [Bound.supertypesOf.sizeOf_spec] at enough
      have read : readType depth (inner ++ rest) = some (readArrays _ rest) :=
        JavaType.readType_sourceText found plain (followsType_of_followsArgument h) (by omega)
      rw [readArrays_of_followsArgument h] at read
      rw [List.append_assoc, readArgument_supertypesOf read]
      rfl

theorem JavaType.readArguments_argumentTexts {types : List JavaType} {texts : List Text}
    {rest : Text} {depth : Nat} (some_type : types ≠ [])
    (named : JavaType.argumentTexts types = .ok texts)
    (plain : PlainNames (JavaType.argumentParts types)) (enough : sizeOf types ≤ depth) :
    readArguments depth (Text.commaList texts ++ '>' :: rest) =
      some (JavaType.allWithoutPrimitives (JavaType.writtenForms types), rest) := by
  cases types with
  | nil => exact absurd rfl some_type
  | cons type others =>
      obtain ⟨text, texts, first, found, rfl⟩ := JavaType.argumentTexts_cons_eq_ok_iff.mp named
      obtain ⟨plainFirst, plainOthers⟩ := plainNames_append.mp plain
      rw [List.cons.sizeOf_spec] at enough
      obtain ⟨depth, rfl⟩ : ∃ less, depth = less + 1 := ⟨depth - 1, by omega⟩
      have read : ∀ after, followsArgument after = true →
          readArgument (readType depth) (text ++ after) =
            some (type.writtenForm.withoutPrimitives, after) := by
        intro after closes
        have within : sizeOf type ≤ depth := by omega
        -- Any argument but a wildcard has the text that it has outside an argument list.
        have outside : type.sourceText false = .ok text →
            readArgument (readType depth) (text ++ after) =
              some (type.writtenForm.withoutPrimitives, after) := fun named =>
          JavaType.readArgument_sourceText named plainFirst closes <|
            JavaType.readType_sourceText named plainFirst (followsType_of_followsArgument closes)
              within
        cases type with
        | wildcard bound =>
            rw [JavaType.wildcard.sizeOf_spec] at within
            exact Bound.readArgument_sourceText first (plainNames_cons.mp plainFirst).2 closes
              (by omega)
        | _ => exact outside first
      cases others with
      | nil =>
          obtain rfl := Except.ok.inj found
          rw [Text.commaList, List.intercalate_singleton]
          exact readArguments_last (read ('>' :: rest) rfl)
      | cons next more =>
          obtain ⟨nextText, moreTexts, -, -, rfl⟩ :=
            JavaType.argumentTexts_cons_eq_ok_iff.mp found
          rw [commaList_cons_cons_append]
          exact readArguments_next (read (',' :: ' ' :: _) rfl)
            (JavaType.readArguments_argumentTexts (List.cons_ne_nil next more) found plainOthers
              (by omega))

end

theorem JavaType.readType_sourceName {type : JavaType} {text : Text} {depth : Nat}
    (named : type.sourceName = .ok text) (plain : PlainNames type.parts)
    (enough : sizeOf type ≤ depth) :
    readType depth text = some (type.writtenForm.withoutPrimitives, []) := by
  have read : readType depth (text ++ []) = some (readArrays _ []) :=
    JavaType.readType_sourceText (JavaType.sourceName_eq_ok_iff.mp named) plain rfl enough
  rw [List.append_nil] at read
  exact read

end RoundTrip

/-- Types with plain names share a source name exactly if their written forms are the same up to
primitive types, which have the names of classes. -/
theorem JavaType.sourceName_unambiguous {a b : JavaType} {text other : Text}
    (plainA : PlainNames a.parts) (plainB : PlainNames b.parts)
    (namedA : a.sourceName = .ok text) (namedB : b.sourceName = .ok other) :
    text = other ↔ a.writtenForm.withoutPrimitives = b.writtenForm.withoutPrimitives := by
  constructor
  · rintro rfl
    have readA := readType_sourceName namedA plainA (Nat.le_add_right _ (sizeOf b))
    have readB := readType_sourceName namedB plainB (Nat.le_add_left _ (sizeOf a))
    exact congrArg Prod.fst (Option.some.inj (readA.symm.trans readB))
  · intro same
    rw [eq_describe_of_sourceText (sourceName_eq_ok_iff.mp namedA),
      eq_describe_of_sourceText (sourceName_eq_ok_iff.mp namedB), ← describe_withoutPrimitives,
      same, describe_withoutPrimitives]

/-- A member class with an empty argument list is written like the class itself, and an array of a
primitive type like an array of a class; the kind of a bound tells types apart. -/
theorem JavaType.sourceName_unambiguous_maps :
    let list := JavaType.parameterized "a.B$List".toList []
    let ints := JavaType.array (.primitive "int".toList)
    let a := JavaType.parameterized "Map".toList [list, .wildcard (.subtypesOf ints)]
    let b := JavaType.parameterized "Map".toList [.classType "a.B.List".toList,
      .wildcard (.subtypesOf (.array (.classType "int".toList)))]
    let c := JavaType.parameterized "Map".toList [list, .wildcard (.supertypesOf ints)]
    let text := "Map<a.B.List, ? extends int[]>".toList
    let other := "Map<a.B.List, ? super int[]>".toList
    (PlainNames a.parts ∧ PlainNames b.parts ∧ PlainNames c.parts) ∧
      (a.sourceName = .ok text ∧ b.sourceName = .ok text ∧ c.sourceName = .ok other) ∧
      a.writtenForm.withoutPrimitives = b.writtenForm.withoutPrimitives ∧
      a.writtenForm.withoutPrimitives ≠ c.writtenForm.withoutPrimitives := by
  intro list ints a b c text other
  have plainA : PlainNames a.parts := by decide
  have plainB : PlainNames b.parts := by decide
  have plainC : PlainNames c.parts := by decide
  have namedA : a.sourceName = .ok text := rfl
  have namedB : b.sourceName = .ok text := rfl
  have namedC : c.sourceName = .ok other := rfl
  refine ⟨⟨plainA, plainB, plainC⟩, ⟨namedA, namedB, namedC⟩, ?_, ?_⟩
  · exact (JavaType.sourceName_unambiguous plainA plainB namedA namedB).mp rfl
  · intro same
    have shared : text = other :=
      (JavaType.sourceName_unambiguous plainA plainC namedA namedC).mpr same
    exact absurd shared (by decide)

end Injector
