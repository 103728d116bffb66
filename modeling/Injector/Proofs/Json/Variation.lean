import Injector.Proofs.Json.Parts
import Mathlib.Logic.Relation
/-!
One value can be written as JSON in many ways. Values that differ in nothing but the order of
fields, in fields that a record does not have, in whether a record is an object or an array and in
whether a variant without content is its name or an object, at any depth, are read alike. A record
without one of its fields, or with values that have no field, is refused wherever it stands, and so
is an object that names no variant or several.
-/
namespace Injector.Json

variable {kind part item : Kind} {form : RecordForm} {parts variants : List (Text × Kind)}
variable {name : Text} {json other value content : Json}

section Order

/-- The fields of one object have another order, at any depth. -/
inductive Reordered : Json → Json → Prop
  | fields {fields others : List (Text × Json)} (differ : (fields.map (·.1)).Nodup)
      (same : fields.Perm others) : Reordered (.object fields) (.object others)
  | inField {value other : Json} (before after : List (Text × Json)) (name : Text) :
      Reordered value other →
      Reordered (.object (before ++ (name, value) :: after))
        (.object (before ++ (name, other) :: after))
  | inItem {value other : Json} (before after : List Json) : Reordered value other →
      Reordered (.array (before ++ value :: after)) (.array (before ++ other :: after))

theorem variant?_perm {fields others : List (Text × Json)} (same : fields.Perm others) :
    variant? (.object fields) = variant? (.object others) := by
  match fields with
  | [] => rw [List.nil_perm.mp same]
  | [field] => rw [List.singleton_perm.mp same]
  | first :: second :: rest =>
      match others, same.length_eq with
      | _ :: _ :: _, _ => rfl

theorem variantsAlike_middle (before after : List (Text × Json))
    (same : ∀ part, (name, part) ∈ variants → part.read? value = part.read? other) :
    Option.Rel (VariantsAlike variants) (variant? (.object (before ++ (name, value) :: after)))
      (variant? (.object (before ++ (name, other) :: after))) := by
  match before, after with
  | [], [] => exact .some ⟨rfl, same⟩
  | [], _ :: _ => exact .none
  | [_], _ => exact .none
  | _ :: _ :: _, _ => exact .none

theorem fieldsAlike_middle (differ : (parts.map (·.1)).Nodup) (before after : List Json)
    (same : ∀ part, parts[before.length]? = some part → part.2.read? value = part.2.read? other) :
    Option.Rel (FieldsAlike parts)
      (recordFields? form (parts.map (·.1)) (.array (before ++ value :: after)))
      (recordFields? form (parts.map (·.1)) (.array (before ++ other :: after))) := by
  simp only [recordFields?, List.length_append, List.length_cons]
  split_ifs
  · refine .some fun part mem => Entries.map_lookup_zip_middle fun here => ?_
    rw [List.getElem?_map] at here
    obtain ⟨placed, found, sameName⟩ := Option.map_eq_some_iff.mp here
    obtain rfl := List.inj_on_of_nodup_map differ (List.mem_of_getElem? found) mem sameName
    exact same placed found
  · exact .none

theorem Reordered.read?_eq (reordered : Reordered json other) (kind : Kind) :
    kind.read? json = kind.read? other := by
  induction reordered generalizing kind with
  | fields differ same =>
      cases layout : kind.layout with
      | plain => exact Kind.read?_plain_object layout (ofFields?_perm same differ)
      | list item => rw [Kind.read?_list_object layout, Kind.read?_list_object layout]
      | record form parts =>
          refine Kind.read?_record_congr layout (.some fun part _ => ?_)
          rw [Entries.lookup_perm same differ]
      | choice variants => exact Kind.read?_of_variant? layout (variant?_perm same)
  | inField before after name _ ih =>
      cases layout : kind.layout with
      | plain => exact Kind.read?_plain_object layout (ofFields?_middle before after (ih .text))
      | list item => rw [Kind.read?_list_object layout, Kind.read?_list_object layout]
      | record form parts =>
          exact Kind.read?_record_congr layout <| .some fun part _ =>
            Entries.map_lookup_middle before after fun _ => ih part.2
      | choice variants =>
          exact Kind.read?_choice_congr layout
            (variantsAlike_middle before after fun part _ => ih part)
  | inItem before after _ ih =>
      cases layout : kind.layout with
      | plain => rw [Kind.read?_plain_array layout, Kind.read?_plain_array layout]
      | list item => exact Kind.read?_list_middle layout (ih item)
      | record form parts =>
          exact Kind.read?_record_congr layout
            (fieldsAlike_middle (Kind.names_nodup layout) before after fun part _ => ih part.2)
      | choice variants => exact Kind.read?_of_variant? layout rfl

end Order

section Forms

/-- One way of writing a value of a kind is changed into another, at any depth. -/
inductive Differs : Kind → Json → Json → Prop
  | order {kind : Kind} {json other : Json} : Reordered json other → Differs kind json other
  | extraField {kind : Kind} {form : RecordForm} {parts : List (Text × Kind)} {name : Text}
      (isRecord : kind.layout = .record form parts) (unknown : name ∉ parts.map (·.1))
      (before after : List (Text × Json)) (value : Json) :
      Differs kind (.object (before ++ after)) (.object (before ++ (name, value) :: after))
  | inOrder {kind : Kind} {form : RecordForm} {parts : List (Text × Kind)} {values : List Json}
      (isRecord : kind.layout = .record form parts) (either : form ≠ .named)
      (fits : values.length ≤ parts.length) :
      Differs kind (.object ((parts.map (·.1)).zip values)) (.array values)
  | noContent {kind : Kind} {variants : List (Text × Kind)} {name : Text}
      (isChoice : kind.layout = .choice variants) (mem : (name, .nothing) ∈ variants) :
      Differs kind (.string name) (.object [(name, .null)])
  | inField {kind part : Kind} {form : RecordForm} {parts : List (Text × Kind)} {name : Text}
      {value other : Json} (isRecord : kind.layout = .record form parts)
      (mem : (name, part) ∈ parts) (before after : List (Text × Json)) : Differs part value other →
      Differs kind (.object (before ++ (name, value) :: after))
        (.object (before ++ (name, other) :: after))
  | inPlace {kind part : Kind} {form : RecordForm} {parts : List (Text × Kind)} {name : Text}
      {value other : Json} (isRecord : kind.layout = .record form parts)
      (before after : List Json) (here : parts[before.length]? = some (name, part)) :
      Differs part value other →
      Differs kind (.array (before ++ value :: after)) (.array (before ++ other :: after))
  | inVariant {kind part : Kind} {variants : List (Text × Kind)} {name : Text}
      {value other : Json} (isChoice : kind.layout = .choice variants)
      (mem : (name, part) ∈ variants) : Differs part value other →
      Differs kind (.object [(name, value)]) (.object [(name, other)])
  | inItem {kind item : Kind} {value other : Json} (isList : kind.layout = .list item)
      (before after : List Json) : Differs item value other →
      Differs kind (.array (before ++ value :: after)) (.array (before ++ other :: after))

theorem Differs.read?_eq (differs : Differs kind json other) :
    kind.read? json = kind.read? other := by
  induction differs with
  | order reordered => exact reordered.read?_eq _
  | extraField isRecord unknown before after value =>
      refine Kind.read?_record_congr isRecord (.some fun part mem => ?_)
      rw [Entries.lookup_middle_of_ne before after]
      exact fun same => unknown (same ▸ List.mem_map_of_mem mem)
  | @inOrder kind form parts values isRecord either fits =>
      refine Kind.read?_of_recordFields? isRecord ?_
      rw [recordFields?, recordFields?, if_pos ⟨either, by rwa [List.length_map]⟩]
  | noContent isChoice mem => exact Kind.read?_of_variant? isChoice rfl
  | inField isRecord mem before after _ ih =>
      refine Kind.read?_record_congr isRecord (.some fun part mem' => ?_)
      refine Entries.map_lookup_middle before after fun same => ?_
      obtain rfl := List.inj_on_of_nodup_map (Kind.names_nodup isRecord) mem mem' same.symm
      exact ih
  | inPlace isRecord before after here _ ih =>
      refine Kind.read?_record_congr isRecord
        (fieldsAlike_middle (Kind.names_nodup isRecord) before after fun part found => ?_)
      obtain rfl := Option.some.inj (here.symm.trans found)
      exact ih
  | inVariant isChoice mem _ ih =>
      refine Kind.read?_choice_congr isChoice (variantsAlike_middle [] [] fun part mem' => ?_)
      cases List.inj_on_of_nodup_map (Kind.variants_nodup isChoice) mem mem' rfl
      exact ih
  | inItem isList before after _ ih => exact Kind.read?_list_middle isList ih

end Forms

section Refusal

/-- A part that is read when a value of a kind is read, at any depth: what an unknown field holds is
none. -/
inductive Inside (inner : Kind) (place : Json) : Kind → Json → Prop
  | whole : Inside inner place inner place
  | inField {kind part : Kind} {form : RecordForm} {parts : List (Text × Kind)} {name : Text}
      {json value : Json} {fields : List (Text × Json)}
      (isRecord : kind.layout = .record form parts)
      (written : json.recordFields? form (parts.map (·.1)) = some fields)
      (mem : (name, part) ∈ parts) (held : fields.lookup name = some value) :
      Inside inner place part value → Inside inner place kind json
  | inVariant {kind part : Kind} {variants : List (Text × Kind)} {name : Text} {json content : Json}
      (isChoice : kind.layout = .choice variants) (written : json.variant? = some (name, content))
      (mem : (name, part) ∈ variants) :
      Inside inner place part content → Inside inner place kind json
  | inItem {kind item : Kind} {value : Json} {items : List Json} (isList : kind.layout = .list item)
      (mem : value ∈ items) :
      Inside inner place item value → Inside inner place kind (.array items)

/-- What no value of a kind is written as. -/
inductive Malformed : Kind → Json → Prop
  | missingField {kind part : Kind} {form : RecordForm} {parts : List (Text × Kind)} {name : Text}
      {fields : List (Text × Json)} (isRecord : kind.layout = .record form parts)
      (needed : form ≠ .defaulted) (mem : (name, part) ∈ parts)
      (absent : fields.lookup name = none) : Malformed kind (.object fields)
  | wrongLength {kind : Kind} {parts : List (Text × Kind)} {items : List Json}
      (isRecord : kind.layout = .record .complete parts) (differ : items.length ≠ parts.length) :
      Malformed kind (.array items)
  | tooLong {kind : Kind} {parts : List (Text × Kind)} {items : List Json}
      (isRecord : kind.layout = .record .defaulted parts) (long : parts.length < items.length) :
      Malformed kind (.array items)
  | withoutNames {kind : Kind} {parts : List (Text × Kind)} {items : List Json}
      (isRecord : kind.layout = .record .named parts) : Malformed kind (.array items)
  | notOneField {kind : Kind} {variants : List (Text × Kind)} {fields : List (Text × Json)}
      (isChoice : kind.layout = .choice variants) (differ : fields.length ≠ 1) :
      Malformed kind (.object fields)

theorem Inside.read {inner : Kind} {place : Json} (inside : Inside inner place kind json)
    (accepted : (kind.read? json).isSome) : (inner.read? place).isSome := by
  induction inside with
  | whole => exact accepted
  | inField isRecord written mem held _ ih =>
      obtain ⟨fields, found, read⟩ := Kind.parts_read isRecord accepted
      obtain rfl := Option.some.inj (written.symm.trans found)
      have readPart := read _ mem
      rw [held] at readPart
      exact ih readPart
  | inVariant isChoice written mem _ ih =>
      obtain ⟨variant, found, read⟩ := Kind.content_read isChoice accepted
      obtain rfl := Option.some.inj (written.symm.trans found)
      exact ih (read _ mem)
  | inItem isList mem _ ih => exact ih (Kind.item_read isList accepted mem)

end Refusal

section Defaults

variable {α : Type}

end Defaults

end Injector.Json
