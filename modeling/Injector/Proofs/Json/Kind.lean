import Injector.Json
import Injector.Proofs.Entries
/-!
Kinds of JSON values, and what each kind looks like: a record of fields, a choice between variants,
a list, or something whose inside is written in one way only. Each kind is read by finding the
fields or the variant first, however they are written, and reading what they hold after that.
-/
namespace Injector.Json

section Kinds

/-- What a JSON value is read as. -/
inductive Kind where
  | type
  | bound
  | annotationUse
  | qualifier
  | key
  | dependency
  | settings
  | text
  | flag
  | word
  | texts
  | types
  | values
  /-- The content of a variant that holds nothing. -/
  | nothing
  | classContent
  | genericContent
  | localContent
  deriving DecidableEq

def Kind.Value : Kind → Type
  | .type => JavaType
  | .bound => Bound
  | .annotationUse => AnnotationUse
  | .qualifier => Qualifier
  | .key => Key
  | .dependency => Dependency
  | .settings => Settings
  | .text => Text
  | .flag => Bool
  | .word => UInt64
  | .texts => List Text
  | .types => List JavaType
  | .values => ElementValues
  | .nothing => Unit
  | .classContent => Text
  | .genericContent => Text × List JavaType
  | .localContent => Text × Bool

/-- How the fields of a record are written. -/
inductive RecordForm where
  /-- By their names, and none is absent. -/
  | named
  /-- By their names or in their order, and none is absent. -/
  | complete
  /-- By their names or in their order, and what is absent has a default. -/
  | defaulted
  deriving DecidableEq

/-- The fields of a record; those of an array have the names in their order. -/
def recordFields? (form : RecordForm) (names : List Text) : Json → Option (List (Text × Json))
  | .object fields => some fields
  | .array items =>
      if form ≠ .named ∧ items.length ≤ names.length then some (names.zip items) else none
  | _ => none

/-- The variant of a choice and its content; one that is written as its name has no content. -/
def variant? : Json → Option (Text × Json)
  | .string name => some (name, .null)
  | .object [field] => some field
  | _ => none

/-- The value of a field that must not be absent. -/
def required? {α : Type} (read : Json → Option α) (name : Text) (fields : List (Text × Json)) :
    Option α :=
  (fields.lookup name).bind read

def nothing? : Json → Option Unit
  | .null => some ()
  | _ => none

def types? : Json → Option (List JavaType) :=
  list? JavaType.ofJson?

def classContent? (json : Json) : Option Text := do
  let fields ← json.recordFields? .named ["name".toList]
  required? text? "name".toList fields

def genericContent? (json : Json) : Option (Text × List JavaType) := do
  let fields ← json.recordFields? .named ["raw".toList, "arguments".toList]
  return (← required? text? "raw".toList fields, ← required? types? "arguments".toList fields)

def localContent? (json : Json) : Option (Text × Bool) := do
  let fields ← json.recordFields? .named ["name".toList, "anonymous".toList]
  return (← required? text? "name".toList fields, ← required? bool? "anonymous".toList fields)

def Kind.read? : (kind : Kind) → Json → Option kind.Value
  | .type => JavaType.ofJson?
  | .bound => Bound.ofJson?
  | .annotationUse => AnnotationUse.ofJson?
  | .qualifier => Qualifier.ofJson?
  | .key => Key.ofJson?
  | .dependency => Dependency.ofJson?
  | .settings => Settings.ofJson?
  | .text => text?
  | .flag => bool?
  | .word => word?
  | .texts => list? text?
  | .types => types?
  | .values => ElementValues.ofJson?
  | .nothing => nothing?
  | .classContent => classContent?
  | .genericContent => genericContent?
  | .localContent => localContent?

/-- What the values of a kind look like. -/
inductive Layout where
  /-- Nothing inside can be written in more than one way, but for the order of fields. -/
  | plain
  | list (item : Kind)
  | record (form : RecordForm) (fields : List (Text × Kind))
  /-- An object whose one field is named for the variant; a variant that holds nothing is also
  written as its name. -/
  | choice (variants : List (Text × Kind))

def Kind.layout : Kind → Layout
  | .type => .choice
      [("Class".toList, .classContent), ("Primitive".toList, .text),
        ("Parameterized".toList, .genericContent), ("Array".toList, .type),
        ("Wildcard".toList, .bound), ("TypeVariable".toList, .text),
        ("Local".toList, .localContent)]
  | .bound => .choice
      [("Unbounded".toList, .nothing), ("Extends".toList, .type), ("Super".toList, .type)]
  | .annotationUse => .record .complete [("annotation_type".toList, .text), ("values".toList, .values)]
  | .qualifier => .choice
      [("None".toList, .nothing), ("Instance".toList, .annotationUse), ("Marker".toList, .text)]
  | .key => .record .complete [("ty".toList, .type), ("qualifier".toList, .qualifier)]
  | .dependency => .record .complete
      [("source".toList, .key), ("target".toList, .key), ("optional".toList, .flag),
        ("lazy".toList, .flag)]
  | .settings => .record .defaulted
      [("provider_types".toList, .texts), ("indent_size".toList, .word),
        ("getter_prefix".toList, .text)]
  | .texts => .list .text
  | .types => .list .type
  | .classContent => .record .named [("name".toList, .text)]
  | .genericContent => .record .named [("raw".toList, .text), ("arguments".toList, .types)]
  | .localContent => .record .named [("name".toList, .text), ("anonymous".toList, .flag)]
  | .text | .flag | .word | .values | .nothing => .plain

end Kinds

section Equations

theorem record?_eq (form : RecordForm) (inOrder : form ≠ .named) {names : List Text}
    (differ : names.Nodup) (json : Json) :
    json.record? names =
      (json.recordFields? form names).map fun fields => names.map (fields.lookup ·) := by
  cases json with
  | array items =>
      rw [record?, recordFields?]
      by_cases short : items.length ≤ names.length
      · rw [if_pos short, if_pos ⟨inOrder, short⟩, Option.map_some,
          Entries.map_lookup_zip differ short]
      · rw [if_neg short, if_neg fun h => short h.2, Option.map_none]
  | object fields => rfl
  | null | bool | integer | decimal | string => rfl

theorem required_pair {α β γ : Type} (make : α → β → γ) (first : Json → Option α)
    (second : Json → Option β) {a b : Text} (differ : [a, b].Nodup) (json : Json) :
    (match json.record? [a, b] with
      | some [some x, some y] => do return make (← first x) (← second y)
      | _ => none) = do
      let fields ← json.recordFields? .complete [a, b]
      return make (← required? first a fields) (← required? second b fields) := by
  rw [record?_eq .complete (by decide) differ]
  cases json.recordFields? .complete [a, b] with
  | none => rfl
  | some fields =>
      simp only [Option.map_some, List.map_cons, List.map_nil, required?, Option.bind_eq_bind,
        Option.bind_some]
      cases fields.lookup a <;> cases fields.lookup b <;> simp

theorem AnnotationUse.ofJson?_eq (json : Json) :
    AnnotationUse.ofJson? json = do
      let fields ← json.recordFields? .complete ["annotation_type".toList, "values".toList]
      return ⟨← required? text? "annotation_type".toList fields,
        ← required? ElementValues.ofJson? "values".toList fields⟩ :=
  required_pair AnnotationUse.mk text? ElementValues.ofJson? (by decide) json

theorem Key.ofJson?_eq (json : Json) :
    Key.ofJson? json = do
      let fields ← json.recordFields? .complete ["ty".toList, "qualifier".toList]
      return ⟨← required? JavaType.ofJson? "ty".toList fields,
        ← required? Qualifier.ofJson? "qualifier".toList fields⟩ :=
  required_pair Key.mk JavaType.ofJson? Qualifier.ofJson? (by decide) json

theorem Dependency.ofJson?_eq (json : Json) :
    Dependency.ofJson? json = do
      let fields ← json.recordFields? .complete
        ["source".toList, "target".toList, "optional".toList, "lazy".toList]
      return ⟨← required? Key.ofJson? "source".toList fields,
        ← required? Key.ofJson? "target".toList fields,
        ← required? bool? "optional".toList fields, ← required? bool? "lazy".toList fields⟩ := by
  rw [Dependency.ofJson?, record?_eq .complete (by decide) (by decide), Dependency.fieldNames]
  cases json.recordFields? .complete
      ["source".toList, "target".toList, "optional".toList, "lazy".toList] with
  | none => rfl
  | some fields =>
      simp only [Option.map_some, List.map_cons, List.map_nil, required?, Option.bind_eq_bind,
        Option.bind_some]
      generalize fields.lookup "source".toList = source
      generalize fields.lookup "target".toList = target
      generalize fields.lookup "optional".toList = optional
      generalize fields.lookup "lazy".toList = lazy
      cases source <;> cases target <;> cases optional <;> cases lazy <;> simp

theorem Settings.ofJson?_eq (json : Json) :
    Settings.ofJson? json = do
      let fields ← json.recordFields? .defaulted
        ["provider_types".toList, "indent_size".toList, "getter_prefix".toList]
      return ⟨← Settings.orDefault Settings.default.providerTypes (list? text?)
          (fields.lookup "provider_types".toList),
        ← Settings.orDefault Settings.default.indentSize word?
          (fields.lookup "indent_size".toList),
        ← Settings.orDefault Settings.default.nameStart text?
          (fields.lookup "getter_prefix".toList)⟩ := by
  rw [Settings.ofJson?, record?_eq .defaulted (by decide) (by decide), Settings.fieldNames]
  cases json.recordFields? .defaulted
      ["provider_types".toList, "indent_size".toList, "getter_prefix".toList] <;> rfl

theorem JavaType.allOfJson?_eq_mapM (items : List Json) :
    JavaType.allOfJson? items = items.mapM JavaType.ofJson? := by
  induction items with
  | nil => rfl
  | cons item rest ih => rw [JavaType.allOfJson?, ih, List.mapM_cons]

theorem JavaType.argumentsOfFields?_eq (fields : List (Text × Json)) :
    JavaType.argumentsOfFields? fields = required? types? "arguments".toList fields := by
  induction fields with
  | nil => rfl
  | cons field rest ih =>
      obtain ⟨name, value⟩ := field
      rw [required?, Entries.lookup_cons_eq_ite, apply_ite (Option.bind · types?), ← required?,
        ← ih, Option.bind_some]
      simp only [eq_comm (a := "arguments".toList)]
      cases value with
      | array items =>
          rw [JavaType.argumentsOfFields?, JavaType.allOfJson?_eq_mapM]
          rfl
      | _ =>
          rw [JavaType.argumentsOfFields?]
          · rfl
          · simp

theorem classContent?_object (fields : List (Text × Json)) :
    (classContent? (.object fields)).map JavaType.classType = do
      let name ← (← fields.lookup "name".toList).text?
      return .classType name := by
  simp only [classContent?, recordFields?, required?, Option.map_eq_bind, Option.bind_eq_bind,
    Option.bind_some, Option.bind_assoc]
  rfl

theorem genericContent?_object (fields : List (Text × Json)) :
    ((genericContent? (.object fields)).map fun (raw, arguments) =>
        JavaType.parameterized raw arguments) = do
      let raw ← (← fields.lookup "raw".toList).text?
      let arguments ← JavaType.argumentsOfFields? fields
      return .parameterized raw arguments := by
  simp only [genericContent?, recordFields?, JavaType.argumentsOfFields?_eq, required?,
    Option.map_eq_bind, Option.bind_eq_bind, Option.bind_some, Option.bind_assoc]
  rfl

theorem localContent?_object (fields : List (Text × Json)) :
    ((localContent? (.object fields)).map fun (name, anonymous) =>
        JavaType.localClass name anonymous) = do
      let name ← (← fields.lookup "name".toList).text?
      let anonymous ← (← fields.lookup "anonymous".toList).bool?
      return .localClass name anonymous := by
  simp only [localContent?, recordFields?, required?, Option.map_eq_bind, Option.bind_eq_bind,
    Option.bind_some, Option.bind_assoc]
  rfl

theorem JavaType.ofJson?_eq (json : Json) :
    JavaType.ofJson? json = json.variant?.bind fun variant =>
      if variant.1 = "Class".toList then (classContent? variant.2).map .classType
      else if variant.1 = "Primitive".toList then variant.2.text?.map .primitive
      else if variant.1 = "Parameterized".toList then
        (genericContent? variant.2).map fun (raw, arguments) => .parameterized raw arguments
      else if variant.1 = "Array".toList then (JavaType.ofJson? variant.2).map .array
      else if variant.1 = "Wildcard".toList then (Bound.ofJson? variant.2).map .wildcard
      else if variant.1 = "TypeVariable".toList then variant.2.text?.map .typeVariable
      else if variant.1 = "Local".toList then
        (localContent? variant.2).map fun (name, anonymous) => .localClass name anonymous
      else none := by
  fun_cases variant? json with
  | case1 name =>
      rw [JavaType.ofJson?]
      · rw [Option.bind_some]
        dsimp only
        rw [JavaType.ofJson?]
        · split_ifs <;> rfl
        · simp
      · simp
  | case2 field =>
      obtain ⟨name, content⟩ := field
      rw [Option.bind_some]
      cases content with
      | object fields =>
          dsimp only
          rw [JavaType.ofJson?, classContent?_object, genericContent?_object, localContent?_object]
      | _ =>
          rw [JavaType.ofJson?]
          · rfl
          · simp
  | case3 json text single =>
      rw [JavaType.ofJson?]
      · rfl
      · exact fun name content same => single (name, content) same

theorem Bound.ofJson?_eq (json : Json) :
    Bound.ofJson? json = json.variant?.bind fun variant =>
      if variant.1 = "Unbounded".toList then (nothing? variant.2).map fun _ => .unbounded
      else if variant.1 = "Extends".toList then (JavaType.ofJson? variant.2).map .subtypesOf
      else if variant.1 = "Super".toList then (JavaType.ofJson? variant.2).map .supertypesOf
      else none := by
  fun_cases variant? json with
  | case1 name =>
      rw [Bound.ofJson?, Option.bind_some]
      dsimp only
      rw [JavaType.ofJson?]
      · split_ifs <;> rfl
      · simp
  | case2 field =>
      obtain ⟨name, content⟩ := field
      rw [Option.bind_some]
      cases content with
      | null => rw [Bound.ofJson?]; rfl
      | _ =>
          rw [Bound.ofJson?]
          · rfl
          · simp
  | case3 json text single =>
      rw [Bound.ofJson?]
      · rfl
      · exact text
      · exact fun name content same => single (name, content) same

theorem Qualifier.ofJson?_eq (json : Json) :
    Qualifier.ofJson? json = json.variant?.bind fun variant =>
      if variant.1 = "None".toList then (nothing? variant.2).map fun _ => .unqualified
      else if variant.1 = "Instance".toList then (AnnotationUse.ofJson? variant.2).map .annotated
      else if variant.1 = "Marker".toList then variant.2.text?.map .marked
      else none := by
  fun_cases variant? json with
  | case1 name =>
      rw [Qualifier.ofJson?, Option.bind_some]
      dsimp only
      split_ifs <;> rfl
  | case2 field =>
      obtain ⟨name, content⟩ := field
      rw [Option.bind_some]
      cases content with
      | null => rw [Qualifier.ofJson?]; rfl
      | _ =>
          rw [Qualifier.ofJson?]
          · rfl
          · simp
  | case3 json text single =>
      rw [Qualifier.ofJson?]
      · rfl
      · exact text
      · exact fun name content same => single (name, content) same

end Equations

end Injector.Json
