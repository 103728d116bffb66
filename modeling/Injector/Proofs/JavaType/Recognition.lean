import Injector.Proofs.JavaType.Grammar
import Injector.Proofs.Text.Words
/-!
Which source names belong to the grammar. Every phrase of the grammar is read as a type all of whose
names fit their places, and a source name is read as the written form of its type; so a source name
is a phrase only if the names of the written form fit.
-/
namespace Injector

section Names

theorem isNamePart_of_isIdentifierPart {c : Char} (h : isIdentifierPart c = true) :
    isNamePart c = true := by
  by_contra other
  have mark : c ∈ ['<', '>', ',', ' ', '[', ']', '?'] := by
    simpa only [isNamePart, Bool.not_eq_true', Bool.not_eq_false, List.contains_iff_mem] using other
  have no_mark : ['<', '>', ',', ' ', '[', ']', '?'].all (!isIdentifierPart ·) = true := by decide
  have unfit := List.all_eq_true.mp no_mark c mark
  rw [h] at unfit
  cases unfit

theorem isNamePart_of_isQualifiedName {name : Text} (h : isQualifiedName name = true) :
    ∀ c ∈ name, isNamePart c = true := by
  intro c mem
  have joined : ['.'].intercalate (name.splitOn '.') = name := List.intercalate_splitOn '.'
  rw [← joined] at mem
  rcases Text.mem_intercalate mem with dot | ⟨segment, inside, memSegment⟩
  · obtain rfl := List.mem_singleton.mp dot
    rfl
  · have identifier := List.all_eq_true.mp h segment inside
    cases segment with
    | nil => cases identifier
    | cons d rest =>
        have parts := (Bool.and_eq_true_iff.mp identifier).2
        exact isNamePart_of_isIdentifierPart (List.all_eq_true.mp parts c memSegment)

/-- A text that begins with a character of a name. -/
def BeginsName (text : Text) : Prop :=
  ∃ c rest, text = c :: rest ∧ isNamePart c = true

theorem beginsName_of_isQualifiedName {name : Text} (h : isQualifiedName name = true) :
    BeginsName name := by
  cases name with
  | nil => cases h
  | cons c rest =>
      exact ⟨c, rest, rfl, isNamePart_of_isQualifiedName h c List.mem_cons_self⟩

theorem BeginsName.append {text : Text} (h : BeginsName text) (rest : Text) :
    BeginsName (text ++ rest) := by
  obtain ⟨c, others, rfl, part⟩ := h
  exact ⟨c, others ++ rest, rfl, part⟩

theorem BeginsName.head?_ne {text : Text} (h : BeginsName text) : text.head? ≠ some '?' := by
  obtain ⟨c, rest, rfl, part⟩ := h
  intro same
  obtain rfl := Option.some.inj same
  cases part

theorem isQualifiedName_of_primitive : ∀ name ∈ primitiveNames, isQualifiedName name = true := by
  decide

theorem NamePlace.Fits.of_class {reserved : List Text} {name : Text}
    (h : NamePlace.Fits reserved ⟨name, true⟩) : NamePlace.Fits reserved ⟨name, false⟩ :=
  ⟨h.1, fun same => nomatch same⟩

end Names

section Phrases

variable {reserved : List Text}

/-- A text is read as a type in which every name fits its place, down to any sufficient depth. -/
structure ReadsType (reserved : List Text) (ofClass : Bool) (text : Text) (type : JavaType) :
    Prop where
  begins : BeginsName text
  fits : ∀ place ∈ type.namesAt ofClass, place.Fits reserved
  read : ∃ enough, ∀ depth, enough ≤ depth → ∀ rest, followsType rest = true →
    readType depth (text ++ rest) = some (readArrays type rest)

structure ReadsArgument (reserved : List Text) (text : Text) (type : JavaType) : Prop where
  fits : ∀ place ∈ type.namesAt true, place.Fits reserved
  read : ∃ enough, ∀ depth, enough ≤ depth → ∀ rest, followsArgument rest = true →
    readArgument (readType depth) (text ++ rest) = some (type, rest)

structure ReadsArguments (reserved : List Text) (text : Text) (types : List JavaType) : Prop where
  fits : ∀ place ∈ JavaType.argumentNames types, place.Fits reserved
  read : ∃ enough, ∀ depth, enough ≤ depth → ∀ rest,
    readArguments depth (text ++ '>' :: rest) = some (types, rest)

/-- What a phrase is read as. -/
def Phrase.IsRead (reserved : List Text) : Phrase → Text → Prop
  | .type, text => ∃ type, ReadsType reserved false text type
  | .reference, text => ∃ type, ReadsType reserved true text type
  | .argument, text => ∃ type, ReadsArgument reserved text type
  | .arguments, text => ∃ types, ReadsArguments reserved text types

theorem readsType_name {name : Text} {ofClass : Bool}
    (fits : NamePlace.Fits reserved ⟨name, ofClass⟩) :
    ReadsType reserved ofClass name (.classType name) where
  begins := beginsName_of_isQualifiedName fits.1
  fits := List.forall_mem_singleton.mpr fits
  read := by
    refine ⟨1, fun depth enough rest follows => ?_⟩
    obtain ⟨less, rfl⟩ := Nat.exists_eq_add_of_le' enough
    exact readType_class (isNamePart_of_isQualifiedName fits.1) follows less

theorem JavaType.fits_namesAt_false {type : JavaType}
    (h : ∀ place ∈ type.namesAt true, place.Fits reserved) :
    ∀ place ∈ type.namesAt false, place.Fits reserved := by
  cases type with
  | classType name => exact List.forall_mem_singleton.mpr (List.forall_mem_singleton.mp h).of_class
  | primitive name => exact List.forall_mem_singleton.mpr (List.forall_mem_singleton.mp h).of_class
  | _ => exact h

theorem ReadsType.applied {name text : Text} {types : List JavaType}
    (fits : NamePlace.Fits reserved ⟨name, true⟩) (h : ReadsArguments reserved text types) :
    ReadsType reserved true (name ++ '<' :: (text ++ ['>'])) (.parameterized name types) where
  begins := (beginsName_of_isQualifiedName fits.1).append _
  fits := List.forall_mem_cons.mpr ⟨fits, h.fits⟩
  read := by
    obtain ⟨enough, read⟩ := h.read
    refine ⟨enough + 1, fun depth within rest follows => ?_⟩
    obtain ⟨less, rfl⟩ := Nat.exists_eq_add_of_le' within
    have inner := read (less + enough) (Nat.le_add_left _ _) rest
    rw [List.append_assoc, List.cons_append, List.append_assoc, List.singleton_append]
    exact readType_parameterized (isNamePart_of_isQualifiedName fits.1) inner

theorem ReadsType.array {text : Text} {type : JavaType} (h : ReadsType reserved false text type) :
    ReadsType reserved true (text ++ ['[', ']']) (.array type) where
  begins := h.begins.append _
  fits := h.fits
  read := by
    obtain ⟨enough, read⟩ := h.read
    refine ⟨enough, fun depth within rest follows => ?_⟩
    rw [List.append_assoc, read depth within _ rfl]
    rfl

/-- Where an argument ends, no brackets follow the type. -/
theorem ReadsType.readLast {ofClass : Bool} {text : Text} {type : JavaType}
    (h : ReadsType reserved ofClass text type) :
    ∃ enough, ∀ depth, enough ≤ depth → ∀ rest, followsArgument rest = true →
      readType depth (text ++ rest) = some (type, rest) := by
  obtain ⟨enough, read⟩ := h.read
  refine ⟨enough, fun depth within rest follows => ?_⟩
  rw [read depth within rest (followsType_of_followsArgument follows),
    readArrays_of_followsArgument follows]

theorem ReadsType.argument {text : Text} {type : JavaType} (h : ReadsType reserved true text type) :
    ReadsArgument reserved text type where
  fits := h.fits
  read := by
    obtain ⟨enough, read⟩ := h.readLast
    refine ⟨enough, fun depth within rest follows => ?_⟩
    rw [readArgument_of_head (h.begins.append rest).head?_ne]
    exact read depth within rest follows

theorem ReadsType.subtypesOf {text : Text} {type : JavaType}
    (h : ReadsType reserved true text type) :
    ReadsArgument reserved ("? extends ".toList ++ text) (.wildcard (.subtypesOf type)) where
  fits := h.fits
  read := by
    obtain ⟨enough, read⟩ := h.readLast
    refine ⟨enough, fun depth within rest follows => ?_⟩
    rw [List.append_assoc]
    exact readArgument_subtypesOf (read depth within rest follows)

theorem ReadsType.supertypesOf {text : Text} {type : JavaType}
    (h : ReadsType reserved true text type) :
    ReadsArgument reserved ("? super ".toList ++ text) (.wildcard (.supertypesOf type)) where
  fits := h.fits
  read := by
    obtain ⟨enough, read⟩ := h.readLast
    refine ⟨enough, fun depth within rest follows => ?_⟩
    rw [List.append_assoc]
    exact readArgument_supertypesOf (read depth within rest follows)

theorem ReadsArgument.last {text : Text} {type : JavaType} (h : ReadsArgument reserved text type) :
    ReadsArguments reserved text [type] where
  fits := by
    rw [JavaType.argumentNames, JavaType.argumentNames, List.append_nil]
    exact h.fits
  read := by
    obtain ⟨enough, read⟩ := h.read
    refine ⟨enough + 1, fun depth within rest => ?_⟩
    obtain ⟨less, rfl⟩ := Nat.exists_eq_add_of_le' within
    exact readArguments_last (read (less + enough) (Nat.le_add_left _ _) ('>' :: rest) rfl)

theorem ReadsArgument.next {text others : Text} {type : JavaType} {types : List JavaType}
    (h : ReadsArgument reserved text type) (more : ReadsArguments reserved others types) :
    ReadsArguments reserved (text ++ ", ".toList ++ others) (type :: types) where
  fits := List.forall_mem_append.mpr ⟨h.fits, more.fits⟩
  read := by
    obtain ⟨enough, read⟩ := h.read
    obtain ⟨enoughMore, readMore⟩ := more.read
    refine ⟨max enough enoughMore + 1, fun depth within rest => ?_⟩
    obtain ⟨less, rfl⟩ := Nat.exists_eq_add_of_le' within
    have first := read (less + max enough enoughMore) (by omega)
      (", ".toList ++ (others ++ '>' :: rest)) rfl
    have later := readMore (less + max enough enoughMore) (by omega) rest
    rw [List.append_assoc, List.append_assoc]
    exact readArguments_next first later

/-- Every phrase is read, and the names in what it is read as fit their places. -/
theorem IsPhrase.isRead {phrase : Phrase} {text : Text} (h : IsPhrase reserved phrase text) :
    phrase.IsRead reserved text := by
  induction h with
  | primitive word =>
      exact ⟨_, readsType_name ⟨isQualifiedName_of_primitive _ word, fun same => nomatch same⟩⟩
  | reference _ ih =>
      obtain ⟨type, reads⟩ := ih
      exact ⟨type, reads.begins, JavaType.fits_namesAt_false reads.fits, reads.read⟩
  | named qualified free => exact ⟨_, readsType_name ⟨qualified, fun _ => free⟩⟩
  | applied qualified free _ ih =>
      obtain ⟨types, reads⟩ := ih
      exact ⟨_, .applied ⟨qualified, fun _ => free⟩ reads⟩
  | array _ ih =>
      obtain ⟨type, reads⟩ := ih
      exact ⟨_, reads.array⟩
  | plain _ ih =>
      obtain ⟨type, reads⟩ := ih
      exact ⟨_, reads.argument⟩
  | unbounded =>
      refine ⟨.wildcard .unbounded, ?_, 0, fun depth _ rest follows => ?_⟩
      · rintro _ ⟨⟩
      · exact readArgument_unbounded follows _
  | subtypesOf _ ih =>
      obtain ⟨type, reads⟩ := ih
      exact ⟨_, reads.subtypesOf⟩
  | supertypesOf _ ih =>
      obtain ⟨type, reads⟩ := ih
      exact ⟨_, reads.supertypesOf⟩
  | last _ ih =>
      obtain ⟨type, reads⟩ := ih
      exact ⟨_, reads.last⟩
  | next _ _ ih ihOthers =>
      obtain ⟨type, reads⟩ := ih
      obtain ⟨types, readsOthers⟩ := ihOthers
      exact ⟨_, reads.next readsOthers⟩

end Phrases

section SourceNames

variable {reserved : List Text}

def JavaType.primitiveName? : JavaType → Option Text
  | .primitive name => some name
  | _ => none

/-- The classes in a type have qualified names, and its primitive types are those of the language. -/
def JavaType.WellNamed (type : JavaType) : Prop :=
  ∀ part ∈ type.parts, (∀ name ∈ part.type.rawName?, isQualifiedName name = true) ∧
    ∀ name ∈ part.type.primitiveName?, name ∈ primitiveNames

instance (type : JavaType) : Decidable type.WellNamed :=
  inferInstanceAs (Decidable (∀ part ∈ type.parts, _))

theorem JavaType.WellNamed.plainNames {type : JavaType} (h : type.WellNamed) :
    PlainNames type.parts := by
  rintro ⟨part, isArgument⟩ mem name given
  obtain ⟨classes, primitives⟩ := h _ mem
  cases part with
  | classType _ => exact isNamePart_of_isQualifiedName (classes name given)
  | parameterized _ _ => exact isNamePart_of_isQualifiedName (classes name given)
  | primitive _ =>
      exact isNamePart_of_isQualifiedName (isQualifiedName_of_primitive name (primitives name given))
  | _ => cases given

/-- Read as a phrase and read as a source name, a text is the same type. -/
theorem JavaType.fits_of_isPhrase {type : JavaType} {text : Text} (wellNamed : type.WellNamed)
    (named : type.sourceName = .ok text) (phrase : IsPhrase reserved .type text) :
    ∀ place ∈ type.writtenForm.namesAt false, place.Fits reserved := by
  obtain ⟨tree, reads⟩ := phrase.isRead
  obtain ⟨enough, read⟩ := reads.read
  have asPhrase := read _ (Nat.le_max_left enough (sizeOf type)) [] rfl
  have asName := JavaType.readType_sourceName named wellNamed.plainNames
    (Nat.le_max_right enough (sizeOf type))
  rw [List.append_nil, asName] at asPhrase
  have same : type.writtenForm.withoutPrimitives = tree :=
    congrArg Prod.fst (Option.some.inj asPhrase)
  rw [← JavaType.namesAt_withoutPrimitives, same]
  exact reads.fits

/-- A source name, made from qualified names and the primitive types of the language, is a type of
the language exactly if all names in it fit their places: each is still a qualified name, and no
reserved word stands where only a class can be named. If primitive names are not reserved, then only
member classes can spoil a name; if they are, an argument or a bound must not be primitive. -/
theorem JavaType.sourceName_isPhrase_iff {type : JavaType} {text : Text}
    (words : reserved ⊆ primitiveNames) (wellNamed : type.WellNamed)
    (named : type.sourceName = .ok text) :
    IsPhrase reserved .type text ↔
      ∀ place ∈ type.writtenForm.namesAt false, place.Fits reserved :=
  ⟨JavaType.fits_of_isPhrase wellNamed named,
    JavaType.isPhrase_sourceText words (JavaType.sourceName_eq_ok_iff.mp named)⟩

theorem JavaType.sourceName_isPhrase_map :
    let entries := JavaType.parameterized "java.util.Map$Entry".toList
      [.wildcard .unbounded, .array (.primitive "int".toList)]
    let type := JavaType.parameterized "List".toList [.wildcard (.supertypesOf entries)]
    let text := "List<? super java.util.Map.Entry<?, int[]>>".toList
    (primitiveNames ⊆ primitiveNames ∧ type.WellNamed ∧ type.sourceName = .ok text) ∧
      IsPhrase primitiveNames .type text := by
  intro entries type text
  have words : primitiveNames ⊆ primitiveNames := List.Subset.refl _
  have wellNamed : type.WellNamed := by decide
  have named : type.sourceName = .ok text := rfl
  refine ⟨⟨words, wellNamed, named⟩, ?_⟩
  exact (JavaType.sourceName_isPhrase_iff words wellNamed named).mpr (by decide)

/-- A dollar sign that is part of a name, and not the mark of a member class, leaves an empty segment
or one that begins with a digit, and primitive types are written as arguments and as bounds. -/
theorem JavaType.sourceName_not_isPhrase :
    let starting := JavaType.classType "com.example.$Proxy".toList
    let numbered := JavaType.classType "com.example.Main$1".toList
    let provider := JavaType.parameterized "com.google.inject.Provider".toList
      [.primitive "int".toList]
    let bounded := JavaType.parameterized "java.util.List".toList
      [.wildcard (.subtypesOf (.primitive "int".toList))]
    ((starting.WellNamed ∧ starting.sourceName = .ok "com.example..Proxy".toList ∧
        ¬ IsPhrase [] .type "com.example..Proxy".toList) ∧
      numbered.WellNamed ∧ numbered.sourceName = .ok "com.example.Main.1".toList ∧
        ¬ IsPhrase [] .type "com.example.Main.1".toList) ∧
    (provider.WellNamed ∧ provider.sourceName = .ok "com.google.inject.Provider<int>".toList ∧
        ¬ IsPhrase primitiveNames .type "com.google.inject.Provider<int>".toList) ∧
      bounded.WellNamed ∧ bounded.sourceName = .ok "java.util.List<? extends int>".toList ∧
        ¬ IsPhrase primitiveNames .type "java.util.List<? extends int>".toList := by
  intro starting numbered provider bounded
  have outside : ∀ {reserved : List Text} {type : JavaType} {text : Text}, type.WellNamed →
      type.sourceName = .ok text →
      (¬ ∀ place ∈ type.writtenForm.namesAt false, place.Fits reserved) →
      type.WellNamed ∧ type.sourceName = .ok text ∧ ¬ IsPhrase reserved .type text :=
    fun wellNamed named unfit =>
      ⟨wellNamed, named, fun phrase => unfit (JavaType.fits_of_isPhrase wellNamed named phrase)⟩
  exact ⟨⟨outside (by decide) rfl (by decide), outside (by decide) rfl (by decide)⟩,
    outside (by decide) rfl (by decide), outside (by decide) rfl (by decide)⟩

end SourceNames

end Injector
