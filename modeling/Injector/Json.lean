import Injector.Settings
/-!
JSON values, as far as reading the objects of an injector from them needs to tell them apart.

A type is an object whose one field is named for the kind of the type and holds its parts. A key and
a dependency have a field for each part, and reading also takes the array of the parts, in the order
in which they are written. A field of settings that is absent takes its default.
-/
namespace Injector

/-- A JSON value. The fields of an object have different names. -/
inductive Json where
  | null
  | bool (value : Bool)
  | integer (value : Int)
  /-- A number with a fraction or an exponent, as it is written. -/
  | decimal (literal : Text)
  | string (value : Text)
  | array (items : List Json)
  | object (fields : List (Text × Json))

namespace Json

/-- The object with the given fields, of which a later one replaces an earlier one of its name. -/
def ofFields (fields : List (Text × Json)) : Json :=
  .object (fields.foldl (fun kept field => kept.filter (·.1 != field.1) ++ [field]) [])

def text? : Json → Option Text
  | .string value => some value
  | _ => none

def bool? : Json → Option Bool
  | .bool value => some value
  | _ => none

/-- A value that is an integer from 0 to 2⁶⁴ - 1. -/
def word? : Json → Option UInt64
  | .integer value =>
      if 0 ≤ value ∧ value < UInt64.size then some (.ofNat value.toNat) else none
  | _ => none

/-- A value that is an array of values of one kind. -/
def list? {α : Type} (read : Json → Option α) : Json → Option (List α)
  | .array items => items.mapM read
  | _ => none

/-- The values of named fields, in the order of the names; a field may be absent.
An array holds the first of the fields without their names. -/
def record? (names : List Text) : Json → Option (List (Option Json))
  | .object fields => some (names.map (fields.lookup ·))
  | .array items =>
      if items.length ≤ names.length then
        some (items.map some ++ List.replicate (names.length - items.length) none)
      else none
  | _ => none

end Json

section Types

mutual

def JavaType.toJson : JavaType → Json
  | .classType name =>
      .object [("Class".toList, .object [("name".toList, .string name)])]
  | .primitive name => .object [("Primitive".toList, .string name)]
  | .parameterized raw arguments =>
      .object [("Parameterized".toList, .object
        [("raw".toList, .string raw), ("arguments".toList, .array (JavaType.allToJson arguments))])]
  | .array component => .object [("Array".toList, component.toJson)]
  | .wildcard bound => .object [("Wildcard".toList, bound.toJson)]
  | .typeVariable name => .object [("TypeVariable".toList, .string name)]
  | .localClass name anonymous =>
      .object [("Local".toList, .object
        [("name".toList, .string name), ("anonymous".toList, .bool anonymous)])]

def Bound.toJson : Bound → Json
  | .unbounded => .string "Unbounded".toList
  | .subtypesOf type => .object [("Extends".toList, type.toJson)]
  | .supertypesOf type => .object [("Super".toList, type.toJson)]

def JavaType.allToJson : List JavaType → List Json
  | [] => []
  | type :: rest => type.toJson :: JavaType.allToJson rest

end

mutual

/-- The type that a JSON value stands for, if it stands for one. -/
def JavaType.ofJson? : Json → Option JavaType
  | .object [(kind, content)] =>
      if kind = "Class".toList then
        match content with
        | .object fields => do
            let name ← (← fields.lookup "name".toList).text?
            return .classType name
        | _ => none
      else if kind = "Primitive".toList then content.text?.map .primitive
      else if kind = "Parameterized".toList then
        match content with
        | .object fields => do
            let raw ← (← fields.lookup "raw".toList).text?
            let arguments ← JavaType.argumentsOfFields? fields
            return .parameterized raw arguments
        | _ => none
      else if kind = "Array".toList then (JavaType.ofJson? content).map .array
      else if kind = "Wildcard".toList then (Bound.ofJson? content).map .wildcard
      else if kind = "TypeVariable".toList then content.text?.map .typeVariable
      else if kind = "Local".toList then
        match content with
        | .object fields => do
            let name ← (← fields.lookup "name".toList).text?
            let anonymous ← (← fields.lookup "anonymous".toList).bool?
            return .localClass name anonymous
        | _ => none
      else none
  | _ => none

def Bound.ofJson? : Json → Option Bound
  | .string kind => if kind = "Unbounded".toList then some .unbounded else none
  | .object [(kind, content)] =>
      if kind = "Unbounded".toList then
        match content with
        | .null => some .unbounded
        | _ => none
      else if kind = "Extends".toList then (JavaType.ofJson? content).map .subtypesOf
      else if kind = "Super".toList then (JavaType.ofJson? content).map .supertypesOf
      else none
  | _ => none

/-- The types in the field of the arguments. -/
def JavaType.argumentsOfFields? : List (Text × Json) → Option (List JavaType)
  | [] => none
  | (name, value) :: rest =>
      if name = "arguments".toList then
        match value with
        | .array items => JavaType.allOfJson? items
        | _ => none
      else JavaType.argumentsOfFields? rest

def JavaType.allOfJson? : List Json → Option (List JavaType)
  | [] => some []
  | item :: rest => do
      let type ← JavaType.ofJson? item
      let types ← JavaType.allOfJson? rest
      return type :: types

end

end Types

namespace ElementValues

def toJson (values : ElementValues) : Json :=
  .object (values.entries.map fun entry => (entry.1, .string entry.2))

/-- The values of elements that fields stand for, if each holds a string. -/
def ofFields? : List (Text × Json) → Option ElementValues
  | [] => some .empty
  | (element, value) :: rest => do
      let value ← value.text?
      let values ← ofFields? rest
      return values.set element value

/-- The values of elements that a JSON value stands for, if it is an object of strings. -/
def ofJson? : Json → Option ElementValues
  | .object fields => ofFields? fields
  | _ => none

end ElementValues

namespace AnnotationUse

def fieldNames : List Text :=
  ["annotation_type".toList, "values".toList]

def toJson (use : AnnotationUse) : Json :=
  .object (fieldNames.zip [.string use.annotationType, use.values.toJson])

def ofJson? (json : Json) : Option AnnotationUse :=
  match json.record? fieldNames with
  | some [some annotationType, some values] => do
      return ⟨← annotationType.text?, ← ElementValues.ofJson? values⟩
  | _ => none

end AnnotationUse

namespace Qualifier

def toJson : Qualifier → Json
  | .unqualified => .string "None".toList
  | .annotated use => .object [("Instance".toList, use.toJson)]
  | .marked annotationType => .object [("Marker".toList, .string annotationType)]

def ofJson? : Json → Option Qualifier
  | .string kind => if kind = "None".toList then some .unqualified else none
  | .object [(kind, content)] =>
      if kind = "None".toList then
        match content with
        | .null => some .unqualified
        | _ => none
      else if kind = "Instance".toList then (AnnotationUse.ofJson? content).map .annotated
      else if kind = "Marker".toList then content.text?.map .marked
      else none
  | _ => none

end Qualifier

namespace Key

def fieldNames : List Text :=
  ["ty".toList, "qualifier".toList]

def toJson (key : Key) : Json :=
  .object (fieldNames.zip [key.type.toJson, key.qualifier.toJson])

def ofJson? (json : Json) : Option Key :=
  match json.record? fieldNames with
  | some [some type, some qualifier] => do
      return ⟨← JavaType.ofJson? type, ← Qualifier.ofJson? qualifier⟩
  | _ => none

end Key

namespace Dependency

def fieldNames : List Text :=
  ["source".toList, "target".toList, "optional".toList, "lazy".toList]

def toJson (dependency : Dependency) : Json :=
  .object (fieldNames.zip
    [dependency.source.toJson, dependency.target.toJson, .bool dependency.optional,
      .bool dependency.lazy])

def ofJson? (json : Json) : Option Dependency :=
  match json.record? fieldNames with
  | some [some source, some target, some optional, some lazy] => do
      return ⟨← Key.ofJson? source, ← Key.ofJson? target, ← optional.bool?, ← lazy.bool?⟩
  | _ => none

end Dependency

namespace Settings

def fieldNames : List Text :=
  ["provider_types".toList, "indent_size".toList, "getter_prefix".toList]

/-- Settings as JSON, with every field. -/
def toJson (settings : Settings) : Json :=
  .object (fieldNames.zip
    [.array (settings.providerTypes.map .string), .integer settings.indentSize.toNat,
      .string settings.nameStart])

/-- The value of a field, or a default if the field is absent. -/
def orDefault {α : Type} (fallback : α) (read : Json → Option α) : Option Json → Option α
  | none => some fallback
  | some json => read json

def ofJson? (json : Json) : Option Settings :=
  match json.record? fieldNames with
  | some [providerTypes, indentSize, nameStart] => do
      return ⟨← orDefault default.providerTypes (Json.list? Json.text?) providerTypes,
        ← orDefault default.indentSize Json.word? indentSize,
        ← orDefault default.nameStart Json.text? nameStart⟩
  | _ => none

end Settings

end Injector
