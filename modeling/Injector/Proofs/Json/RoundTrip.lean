import Injector.Proofs.Json.Kind
/-!
Reading undoes writing. Every value is read back from the JSON that it is written as, so no two
values are written alike, and a value that was read from other JSON can be written again safely.
-/
namespace Injector

namespace Json

/-- Writing and reading belong together: what is written is read back, different values are written
differently, and whatever JSON a value is read from, it is read again from what it is written as. -/
structure Faithful {α : Type} (write : α → Json) (read : Json → Option α) : Prop where
  read_write : ∀ value, read (write value) = some value
  injective : Function.Injective write
  stable : ∀ json value, read json = some value → read (write value) = read json

theorem Faithful.of_read_write {α : Type} {write : α → Json} {read : Json → Option α}
    (h : ∀ value, read (write value) = some value) : Faithful write read where
  read_write := h
  injective a b same := by
    have read_same := congrArg read same
    rw [h, h] at read_same
    exact Option.some.inj read_same
  stable json value found := by rw [h, found]

/-- The fields of a record are found again under their names. -/
theorem record?_zip {names : List Text} {values : List Json} (differ : names.Nodup)
    (same : names.length = values.length) :
    (Json.object (names.zip values)).record? names = some (values.map some) := by
  have short := Nat.le_of_eq same.symm
  have inOrder := record?_eq .complete (by decide) differ (.array values)
  rw [recordFields?, if_pos ⟨by decide, short⟩, Option.map_some] at inOrder
  rw [record?, ← inOrder, record?, if_pos short, same, Nat.sub_self, List.replicate_zero,
    List.append_nil]

theorem list?_map {α : Type} {write : α → Json} {read : Json → Option α}
    (h : ∀ value, read (write value) = some value) (values : List α) :
    list? read (.array (values.map write)) = some values := by
  rw [list?]
  induction values with
  | nil => rfl
  | cons value rest ih =>
      rw [List.map_cons, List.mapM_cons, h, ih]
      rfl

theorem word?_toNat (word : UInt64) : word? (.integer word.toNat) = some word := by
  have inside : (0 : Int) ≤ word.toNat ∧ (word.toNat : Int) < UInt64.size := by
    have := word.toNat_lt_size
    omega
  rw [word?, if_pos inside, Int.toNat_natCast, UInt64.ofNat_toNat]

end Json

-- The recursion is that of writing; reading looks at the name of the one field first.
mutual

theorem JavaType.ofJson?_toJson (type : JavaType) : JavaType.ofJson? type.toJson = some type := by
  cases type with
  | classType name => rfl
  | primitive name => rfl
  | parameterized raw arguments =>
      change ((JavaType.allOfJson? (JavaType.allToJson arguments)).bind fun arguments =>
        some (JavaType.parameterized raw arguments)) = _
      rw [JavaType.allOfJson?_allToJson arguments, Option.bind_some]
  | array component =>
      change (JavaType.ofJson? component.toJson).map JavaType.array = _
      rw [JavaType.ofJson?_toJson component, Option.map_some]
  | wildcard bound =>
      change (Bound.ofJson? bound.toJson).map JavaType.wildcard = _
      rw [Bound.ofJson?_toJson bound, Option.map_some]
  | typeVariable name => rfl
  | localClass name anonymous => rfl

theorem Bound.ofJson?_toJson (bound : Bound) : Bound.ofJson? bound.toJson = some bound := by
  cases bound with
  | unbounded => rfl
  | subtypesOf type =>
      change (JavaType.ofJson? type.toJson).map Bound.subtypesOf = _
      rw [JavaType.ofJson?_toJson type, Option.map_some]
  | supertypesOf type =>
      change (JavaType.ofJson? type.toJson).map Bound.supertypesOf = _
      rw [JavaType.ofJson?_toJson type, Option.map_some]

theorem JavaType.allOfJson?_allToJson (types : List JavaType) :
    JavaType.allOfJson? (JavaType.allToJson types) = some types := by
  cases types with
  | nil => rfl
  | cons type rest =>
      rw [JavaType.allToJson, JavaType.allOfJson?, JavaType.ofJson?_toJson type,
        JavaType.allOfJson?_allToJson rest]
      rfl

end

/-- An element that comes before all entries is put in front of them. -/
theorem ElementValues.place_of_first {element value : Text} {entries : List (Text × Text)}
    (h : ∀ entry ∈ entries, compare element entry.1 = .lt) :
    place element value entries = (element, value) :: entries := by
  cases entries with
  | nil => rfl
  | cons entry rest => rw [place, h entry List.mem_cons_self]

theorem ElementValues.ofFields?_map {entries : List (Text × Text)}
    (sorted : entries.Pairwise fun a b => compare a.1 b.1 = .lt) :
    ofFields? (entries.map fun entry => (entry.1, .string entry.2)) = some ⟨entries, sorted⟩ := by
  induction entries with
  | nil => rfl
  | cons entry rest ih =>
      obtain ⟨first, others⟩ := List.pairwise_cons.mp sorted
      have placed : set ⟨rest, others⟩ entry.1 entry.2 = ⟨entry :: rest, sorted⟩ := by
        simp only [set, place_of_first first]
      simp only [List.map_cons, ofFields?, Json.text?, ih others, Option.bind_eq_bind,
        Option.bind_some, placed]
      rfl

theorem ElementValues.ofJson?_toJson (values : ElementValues) :
    ofJson? values.toJson = some values :=
  ofFields?_map values.sorted

theorem AnnotationUse.ofJson?_toJson (use : AnnotationUse) : ofJson? use.toJson = some use := by
  rw [ofJson?, toJson, Json.record?_zip (by decide) rfl]
  simp only [List.map_cons, List.map_nil, Json.text?, ElementValues.ofJson?_toJson]
  rfl

theorem Qualifier.ofJson?_toJson (qualifier : Qualifier) :
    ofJson? qualifier.toJson = some qualifier := by
  cases qualifier with
  | unqualified => rfl
  | annotated use =>
      change (AnnotationUse.ofJson? use.toJson).map Qualifier.annotated = _
      rw [AnnotationUse.ofJson?_toJson, Option.map_some]
  | marked annotationType => rfl

theorem Key.ofJson?_toJson (key : Key) : ofJson? key.toJson = some key := by
  rw [ofJson?, toJson, Json.record?_zip (by decide) rfl]
  simp only [List.map_cons, List.map_nil, JavaType.ofJson?_toJson, Qualifier.ofJson?_toJson]
  rfl

theorem Dependency.ofJson?_toJson (dependency : Dependency) :
    ofJson? dependency.toJson = some dependency := by
  rw [ofJson?, toJson, Json.record?_zip (by decide) rfl]
  simp only [List.map_cons, List.map_nil, Key.ofJson?_toJson, Json.bool?]
  rfl

theorem Settings.ofJson?_of_fields {settings : Settings} {json types size start : Json}
    (fields : json.record? fieldNames = some [some types, some size, some start])
    (hTypes : Json.list? Json.text? types = some settings.providerTypes)
    (hSize : Json.word? size = some settings.indentSize)
    (hStart : Json.text? start = some settings.nameStart) : ofJson? json = some settings := by
  rw [ofJson?, fields]
  simp only [orDefault, hTypes, hSize, hStart]
  rfl

theorem Settings.ofJson?_toJson (settings : Settings) :
    ofJson? settings.toJson = some settings := by
  have types : Json.list? Json.text? (.array (settings.providerTypes.map .string)) =
      some settings.providerTypes :=
    Json.list?_map (fun text => (rfl : Json.text? (.string text) = some text)) _
  exact ofJson?_of_fields (Json.record?_zip (by decide) rfl) types
    (Json.word?_toNat settings.indentSize) rfl

/-- All values that are written as JSON are read back from it: types, bounds, annotations,
qualifiers, keys, dependencies and settings. -/
theorem Json.faithful_all :
    Faithful JavaType.toJson JavaType.ofJson? ∧ Faithful Bound.toJson Bound.ofJson? ∧
      Faithful AnnotationUse.toJson AnnotationUse.ofJson? ∧
      Faithful Qualifier.toJson Qualifier.ofJson? ∧ Faithful Key.toJson Key.ofJson? ∧
      Faithful Dependency.toJson Dependency.ofJson? ∧
      Faithful Settings.toJson Settings.ofJson? :=
  ⟨.of_read_write JavaType.ofJson?_toJson, .of_read_write Bound.ofJson?_toJson,
    .of_read_write AnnotationUse.ofJson?_toJson, .of_read_write Qualifier.ofJson?_toJson,
    .of_read_write Key.ofJson?_toJson, .of_read_write Dependency.ofJson?_toJson,
    .of_read_write Settings.ofJson?_toJson⟩

end Injector
