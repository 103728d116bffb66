import Injector.Proofs.AnnotationUse.Values
import Injector.Proofs.Json.Kind
import Mathlib.Data.List.Forall2
/-!
Reading a value comes down to reading its parts: values whose parts are read alike are read alike,
and the parts of a value that is read are read as well.
-/
namespace Injector.Json

section Options

variable {α β : Type} {found other : Option α} {f : α → Option β}

theorem bind_congr_rel {alike : α → α → Prop} (same : Option.Rel alike found other)
    (congr : ∀ {x y}, alike x y → f x = f y) : found.bind f = other.bind f := by
  cases same with
  | none => rfl
  | some h => exact congr h

theorem exists_of_isSome_bind (accepted : (found.bind f).isSome) :
    ∃ value, found = some value ∧ (f value).isSome := by
  cases found with
  | none => cases accepted
  | some value => exact ⟨value, rfl, accepted⟩

end Options

section Records

variable {α β : Type} {kind part : Kind} {form : RecordForm} {parts : List (Text × Kind)}
  {name : Text}

/-- Fields under which every part of a record is absent on both sides, or read alike. -/
def FieldsAlike (parts : List (Text × Kind)) (fields others : List (Text × Json)) : Prop :=
  ∀ part ∈ parts,
    (fields.lookup part.1).map part.2.read? = (others.lookup part.1).map part.2.read?

/-- A part of a record is read, or it is absent where that is allowed. -/
def PartRead (form : RecordForm) (part : Kind) : Option Json → Prop
  | none => form = .defaulted
  | some value => (part.read? value).isSome

theorem PartRead.held {found : Option Json} (needed : form ≠ .defaulted)
    (read : PartRead form part found) : found ≠ none := by
  rintro rfl
  exact needed read

/-- Reading from fields comes down to reading the parts of a record. -/
structure ReadsParts (form : RecordForm) (parts : List (Text × Kind))
    (build : List (Text × Json) → Option α) : Prop where
  congr : ∀ {fields others}, FieldsAlike parts fields others → build fields = build others
  parts_read : ∀ {fields}, (build fields).isSome →
    ∀ part ∈ parts, PartRead form part.2 (fields.lookup part.1)

namespace ReadsParts

theorem done (value : α) : ReadsParts form [] fun _ => some value where
  congr _ := rfl
  parts_read _ _ mem := nomatch mem

theorem andThen (first : Option Json → Option β) {build : β → List (Text × Json) → Option α}
    (alike : ∀ {found other : Option Json}, found.map part.read? = other.map part.read? →
      first found = first other)
    (read : ∀ {found : Option Json}, (first found).isSome → PartRead form part found)
    (next : ∀ value, ReadsParts form parts (build value)) :
    ReadsParts form ((name, part) :: parts) fun fields =>
      (first (fields.lookup name)).bind fun value => build value fields where
  congr {fields others} same := by
    obtain ⟨here, rest⟩ := List.forall_mem_cons.mp same
    rw [alike here]
    exact Option.bind_congr fun value _ => (next value).congr rest
  parts_read {fields} accepted := by
    obtain ⟨value, here, rest⟩ := exists_of_isSome_bind accepted
    exact List.forall_mem_cons.mpr ⟨read (Option.isSome_of_eq_some here),
      (next value).parts_read rest⟩

theorem required {build : part.Value → List (Text × Json) → Option α}
    (next : ∀ value, ReadsParts form parts (build value)) :
    ReadsParts form ((name, part) :: parts) fun fields =>
      (required? part.read? name fields).bind fun value => build value fields := by
  refine andThen (·.bind part.read?) ?_ ?_ next
  · intro found other same
    cases found <;> cases other <;> simp_all
  · intro found read
    cases found <;> simp_all [PartRead]

theorem orDefault {build : part.Value → List (Text × Json) → Option α} (fallback : part.Value)
    (next : ∀ value, ReadsParts .defaulted parts (build value)) :
    ReadsParts .defaulted ((name, part) :: parts) fun fields =>
      (Settings.orDefault fallback part.read? (fields.lookup name)).bind fun value =>
        build value fields := by
  refine andThen (Settings.orDefault fallback part.read?) ?_ ?_ next
  · intro found other same
    cases found <;> cases other <;> simp_all [Settings.orDefault]
  · intro found read
    cases found <;> simp_all [PartRead, Settings.orDefault]

end ReadsParts

theorem Kind.readsParts (isRecord : kind.layout = .record form parts) :
    ∃ build, ReadsParts form parts build ∧
      ∀ json, kind.read? json = (json.recordFields? form (parts.map (·.1))).bind build := by
  cases kind <;> cases isRecord
  case annotationUse =>
    exact ⟨_, .required fun _ => .required fun _ => .done _, AnnotationUse.ofJson?_eq⟩
  case key => exact ⟨_, .required fun _ => .required fun _ => .done _, Key.ofJson?_eq⟩
  case dependency =>
    exact ⟨_, .required fun _ => .required fun _ => .required fun _ => .required fun _ => .done _,
      Dependency.ofJson?_eq⟩
  case settings =>
    exact ⟨_, .orDefault _ fun _ => .orDefault _ fun _ => .orDefault _ fun _ => .done _,
      Settings.ofJson?_eq⟩
  case classContent =>
    refine ⟨_, .required fun name => .done name, fun json => ?_⟩
    exact congrArg (Option.bind _) (funext fun _ => (Option.bind_fun_some _).symm)
  case genericContent => exact ⟨_, .required fun _ => .required fun _ => .done _, fun _ => rfl⟩
  case localContent => exact ⟨_, .required fun _ => .required fun _ => .done _, fun _ => rfl⟩

theorem Kind.read?_record_congr (isRecord : kind.layout = .record form parts) {json other : Json}
    (same : Option.Rel (FieldsAlike parts) (json.recordFields? form (parts.map (·.1)))
      (other.recordFields? form (parts.map (·.1)))) : kind.read? json = kind.read? other := by
  obtain ⟨build, reads, read?_eq⟩ := Kind.readsParts isRecord
  rw [read?_eq, read?_eq]
  exact bind_congr_rel same reads.congr

theorem Kind.read?_of_recordFields? (isRecord : kind.layout = .record form parts)
    {json other : Json} (same : json.recordFields? form (parts.map (·.1)) =
      other.recordFields? form (parts.map (·.1))) : kind.read? json = kind.read? other := by
  obtain ⟨build, -, read?_eq⟩ := Kind.readsParts isRecord
  rw [read?_eq, read?_eq, same]

theorem Kind.parts_read (isRecord : kind.layout = .record form parts) {json : Json}
    (accepted : (kind.read? json).isSome) :
    ∃ fields, json.recordFields? form (parts.map (·.1)) = some fields ∧
      ∀ part ∈ parts, PartRead form part.2 (fields.lookup part.1) := by
  obtain ⟨build, reads, read?_eq⟩ := Kind.readsParts isRecord
  rw [read?_eq] at accepted
  obtain ⟨fields, written, built⟩ := exists_of_isSome_bind accepted
  exact ⟨fields, written, reads.parts_read built⟩

theorem Kind.names_nodup (isRecord : kind.layout = .record form parts) :
    (parts.map (·.1)).Nodup := by
  cases kind <;> cases isRecord <;> decide

end Records

section Choices

variable {α : Type} {kind part : Kind} {variants : List (Text × Kind)} {name : Text}

/-- The same variant on both sides, with contents that are read alike. -/
def VariantsAlike (variants : List (Text × Kind)) (variant other : Text × Json) : Prop :=
  variant.1 = other.1 ∧
    ∀ part, (variant.1, part) ∈ variants → part.read? variant.2 = part.read? other.2

/-- Reading a variant comes down to reading its content. -/
structure ReadsVariant (variants : List (Text × Kind)) (build : Text × Json → Option α) : Prop where
  congr : ∀ {variant other}, VariantsAlike variants variant other → build variant = build other
  content_read : ∀ {variant}, (build variant).isSome →
    ∀ part, (variant.1, part) ∈ variants → (part.read? variant.2).isSome

namespace ReadsVariant

theorem none : ReadsVariant [] fun _ => (Option.none : Option α) where
  congr _ := rfl
  content_read accepted := nomatch accepted

theorem variant {make : part.Value → α} {build : Text × Json → Option α}
    (differ : name ∉ variants.map (·.1)) (rest : ReadsVariant variants build) :
    ReadsVariant ((name, part) :: variants) fun variant =>
      if variant.1 = name then (part.read? variant.2).map make else build variant where
  congr {variant other} same := by
    obtain ⟨sameName, contents⟩ := same
    rw [← sameName]
    split_ifs with here
    · rw [contents part (here ▸ List.mem_cons_self)]
    · exact rest.congr ⟨sameName, fun part mem => contents part (List.mem_cons_of_mem _ mem)⟩
  content_read {variant} accepted part' mem := by
    split_ifs at accepted with here
    · rcases List.mem_cons.mp mem with first | later
      · cases first
        rwa [Option.isSome_map] at accepted
      · exact absurd (List.mem_map.mpr ⟨_, later, here⟩) differ
    · rcases List.mem_cons.mp mem with first | later
      · exact absurd (congrArg Prod.fst first) here
      · exact rest.content_read accepted part' later

end ReadsVariant

theorem Kind.readsVariant (isChoice : kind.layout = .choice variants) :
    ∃ build, ReadsVariant variants build ∧ ∀ json, kind.read? json = json.variant?.bind build := by
  cases kind <;> cases isChoice
  case type =>
    exact ⟨_, .variant (by decide) <| .variant (by decide) <| .variant (by decide) <|
      .variant (by decide) <| .variant (by decide) <| .variant (by decide) <|
      .variant (by decide) .none, JavaType.ofJson?_eq⟩
  case bound =>
    exact ⟨_, .variant (by decide) <| .variant (by decide) <| .variant (by decide) .none,
      Bound.ofJson?_eq⟩
  case qualifier =>
    exact ⟨_, .variant (by decide) <| .variant (by decide) <| .variant (by decide) .none,
      Qualifier.ofJson?_eq⟩

theorem Kind.read?_choice_congr (isChoice : kind.layout = .choice variants) {json other : Json}
    (same : Option.Rel (VariantsAlike variants) json.variant? other.variant?) :
    kind.read? json = kind.read? other := by
  obtain ⟨build, reads, read?_eq⟩ := Kind.readsVariant isChoice
  rw [read?_eq, read?_eq]
  exact bind_congr_rel same reads.congr

theorem Kind.read?_of_variant? (isChoice : kind.layout = .choice variants) {json other : Json}
    (same : json.variant? = other.variant?) : kind.read? json = kind.read? other := by
  obtain ⟨build, -, read?_eq⟩ := Kind.readsVariant isChoice
  rw [read?_eq, read?_eq, same]

theorem Kind.content_read (isChoice : kind.layout = .choice variants) {json : Json}
    (accepted : (kind.read? json).isSome) :
    ∃ variant, json.variant? = some variant ∧
      ∀ part, (variant.1, part) ∈ variants → (part.read? variant.2).isSome := by
  obtain ⟨build, reads, read?_eq⟩ := Kind.readsVariant isChoice
  rw [read?_eq] at accepted
  obtain ⟨variant, written, built⟩ := exists_of_isSome_bind accepted
  exact ⟨variant, written, reads.content_read built⟩

theorem Kind.variants_nodup (isChoice : kind.layout = .choice variants) :
    (variants.map (·.1)).Nodup := by
  cases kind <;> cases isChoice <;> decide

end Choices

section Lists

variable {α : Type} {kind item : Kind} {read : Json → Option α} {value other : Json}
  {items before after : List Json}

theorem list?_middle (same : read value = read other) :
    list? read (.array (before ++ value :: after)) =
      list? read (.array (before ++ other :: after)) := by
  simp only [list?, List.mapM_append, List.mapM_cons, same]

theorem list?_item_read (accepted : (list? read (.array items)).isSome) (mem : value ∈ items) :
    (read value).isSome := by
  rw [list?] at accepted
  induction items with
  | nil => cases mem
  | cons first rest ih =>
      rw [List.mapM_cons] at accepted
      obtain ⟨_, readFirst, later⟩ := exists_of_isSome_bind accepted
      obtain ⟨_, readRest, -⟩ := exists_of_isSome_bind later
      rcases List.mem_cons.mp mem with rfl | mem
      · exact Option.isSome_of_eq_some readFirst
      · exact ih (Option.isSome_of_eq_some readRest) mem

theorem Kind.readsItems (isList : kind.layout = .list item) :
    ∃ make, ∀ json, kind.read? json = (list? item.read? json).map make := by
  cases kind <;> cases isList <;> exact ⟨id, fun _ => Option.map_id'.symm⟩

theorem Kind.read?_list_middle (isList : kind.layout = .list item)
    (same : item.read? value = item.read? other) :
    kind.read? (.array (before ++ value :: after)) =
      kind.read? (.array (before ++ other :: after)) := by
  obtain ⟨make, read?_eq⟩ := Kind.readsItems isList
  rw [read?_eq, read?_eq, list?_middle same]

theorem Kind.read?_list_object (isList : kind.layout = .list item) (fields : List (Text × Json)) :
    kind.read? (.object fields) = none := by
  obtain ⟨make, read?_eq⟩ := Kind.readsItems isList
  rw [read?_eq]
  rfl

theorem Kind.item_read (isList : kind.layout = .list item)
    (accepted : (kind.read? (.array items)).isSome) (mem : value ∈ items) :
    (item.read? value).isSome := by
  obtain ⟨make, read?_eq⟩ := Kind.readsItems isList
  rw [read?_eq, Option.isSome_map] at accepted
  exact list?_item_read accepted mem

end Lists

-- Of what is plain, only the values of elements are an object.
section Plain

variable {kind : Kind} {fields others : List (Text × Json)}

theorem ofFields?_perm (same : fields.Perm others) (differ : (fields.map (·.1)).Nodup) :
    ElementValues.ofFields? fields = ElementValues.ofFields? others := by
  induction same with
  | nil => rfl
  | cons field same ih =>
      rw [ElementValues.ofFields?, ElementValues.ofFields?, ih (List.nodup_cons.mp differ).2]
  | swap first second rest =>
      have distinct : second.1 ≠ first.1 := (List.pairwise_cons.mp differ).1 _ List.mem_cons_self
      simp only [ElementValues.ofFields?]
      cases first.2.text? <;> cases second.2.text? <;>
        cases ElementValues.ofFields? rest <;> simp [ElementValues.set_comm _ distinct]
  | trans same _ ih ih' => exact (ih differ).trans (ih' ((same.map (·.1)).nodup_iff.mp differ))

theorem ofFields?_middle {name : Text} {value other : Json} (before after : List (Text × Json))
    (same : value.text? = other.text?) :
    ElementValues.ofFields? (before ++ (name, value) :: after) =
      ElementValues.ofFields? (before ++ (name, other) :: after) := by
  induction before with
  | nil =>
      rw [List.nil_append, List.nil_append, ElementValues.ofFields?, ElementValues.ofFields?, same]
  | cons field rest ih =>
      rw [List.cons_append, List.cons_append, ElementValues.ofFields?, ElementValues.ofFields?, ih]

theorem Kind.read?_plain_object (isPlain : kind.layout = .plain)
    (same : ElementValues.ofFields? fields = ElementValues.ofFields? others) :
    kind.read? (.object fields) = kind.read? (.object others) := by
  cases kind <;> cases isPlain
  case values => exact same
  all_goals rfl

theorem Kind.read?_plain_array (isPlain : kind.layout = .plain) (items : List Json) :
    kind.read? (.array items) = none := by
  cases kind <;> cases isPlain <;> rfl

end Plain

end Injector.Json
