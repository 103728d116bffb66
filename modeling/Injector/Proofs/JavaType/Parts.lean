import Injector.JavaType.SourceName
/-!
The parts of a type, in the order in which they are written. A type has a source name unless one
of its parts stands in the way, and the first part that does is the cause of the failure.
-/
namespace Injector

section Parts

/-- A part of a type, and whether it is an argument of the type around it. -/
structure Part where
  type : JavaType
  isArgument : Bool

/-- Why a part has no place in a source name, whatever its own parts are. -/
def Part.obstacle? : Part → Option Unnameable
  | ⟨.wildcard _, isArgument⟩ => if isArgument then none else some .wildcard
  | ⟨.typeVariable _, _⟩ => some .typeVariable
  | ⟨.localClass _ anonymous, _⟩ => some (if anonymous then .anonymousClass else .localClass)
  | _ => none

mutual

/-- The parts inside a type: each comes before its own parts, and arguments come in order. -/
def JavaType.innerParts : JavaType → List Part
  | .parameterized _ arguments => JavaType.argumentParts arguments
  | .array component => ⟨component, false⟩ :: component.innerParts
  | .wildcard bound => bound.parts
  | _ => []

def Bound.parts : Bound → List Part
  | .unbounded => []
  | .subtypesOf type => ⟨type, false⟩ :: type.innerParts
  | .supertypesOf type => ⟨type, false⟩ :: type.innerParts

def JavaType.argumentParts : List JavaType → List Part
  | [] => []
  | type :: rest => ⟨type, true⟩ :: type.innerParts ++ JavaType.argumentParts rest

end

/-- The parts of a type, the type itself first. -/
def JavaType.parts (type : JavaType) : List Part :=
  ⟨type, false⟩ :: type.innerParts

theorem Part.obstacle?_eq_none_iff (part : Part) :
    part.obstacle? = none ↔
      (∀ name, part.type ≠ .typeVariable name) ∧
        (∀ name anonymous, part.type ≠ .localClass name anonymous) ∧
        ∀ bound, part.type = .wildcard bound → part.isArgument = true := by
  obtain ⟨type, isArgument⟩ := part
  cases type <;> cases isArgument <;> simp [obstacle?]

end Parts

section Causes

/-- The cause of a failure, if there is a failure. -/
def cause? {ε α : Type} : Except ε α → Option ε
  | .error cause => some cause
  | .ok _ => none

theorem cause?_map {ε α β : Type} (f : α → β) (result : Except ε α) :
    cause? (result.map f) = cause? result := by
  cases result <;> rfl

theorem cause?_eq_none_iff {ε α : Type} {result : Except ε α} :
    cause? result = none ↔ ∃ value, result = .ok value := by
  cases result <;> simp [cause?]

theorem cause?_eq_some_iff {ε α : Type} {result : Except ε α} {cause : ε} :
    cause? result = some cause ↔ result = .error cause := by
  cases result <;> simp [cause?]

-- The recursion is that of the source text, and a part is looked at where its text would stand.
mutual

theorem JavaType.cause?_sourceText (isArgument : Bool) (type : JavaType) :
    cause? (type.sourceText isArgument) =
      (⟨type, isArgument⟩ :: type.innerParts).findSome? Part.obstacle? := by
  cases type with
  | classType name => rfl
  | primitive name => rfl
  | parameterized raw arguments =>
      rw [JavaType.sourceText, cause?_map, JavaType.cause?_argumentTexts, JavaType.innerParts]
      rfl
  | array component =>
      rw [JavaType.sourceText, cause?_map, JavaType.cause?_sourceText false, JavaType.innerParts]
      rfl
  | wildcard bound =>
      rw [JavaType.sourceText, JavaType.innerParts]
      cases isArgument with
      | false => rfl
      | true => exact Bound.cause?_sourceText bound
  | typeVariable name => rfl
  | localClass name anonymous => rfl

theorem Bound.cause?_sourceText (bound : Bound) :
    cause? bound.sourceText = bound.parts.findSome? Part.obstacle? := by
  cases bound with
  | unbounded => rfl
  | subtypesOf type =>
      rw [Bound.sourceText, cause?_map, JavaType.cause?_sourceText false, Bound.parts]
  | supertypesOf type =>
      rw [Bound.sourceText, cause?_map, JavaType.cause?_sourceText false, Bound.parts]

theorem JavaType.cause?_argumentTexts (types : List JavaType) :
    cause? (JavaType.argumentTexts types) =
      (JavaType.argumentParts types).findSome? Part.obstacle? := by
  cases types with
  | nil => rfl
  | cons type rest =>
      have first := JavaType.cause?_sourceText true type
      rw [JavaType.argumentTexts, JavaType.argumentParts, List.findSome?_append, ← first,
        ← JavaType.cause?_argumentTexts rest]
      cases type.sourceText true with
      | error cause => rfl
      | ok text => rw [cause?_map]; rfl

end

theorem mapError_eq_ok_iff {ε ε' α : Type} {f : ε → ε'} {result : Except ε α} {value : α} :
    result.mapError f = .ok value ↔ result = .ok value := by
  cases result with
  | error cause => constructor <;> intro same <;> cases same
  | ok found => constructor <;> intro same <;> cases same <;> rfl

theorem mapError_eq_error_iff {ε ε' α : Type} {f : ε → ε'} {result : Except ε α} {failure : ε'} :
    result.mapError f = .error failure ↔ ∃ cause, result = .error cause ∧ f cause = failure := by
  cases result with
  | error cause =>
      constructor
      · intro same
        exact ⟨cause, rfl, Except.error.inj same⟩
      · rintro ⟨_, ⟨⟩, rfl⟩
        rfl
  | ok found =>
      constructor
      · intro same
        cases same
      · rintro ⟨_, ⟨⟩, -⟩

theorem JavaType.sourceName_eq_ok_iff {type : JavaType} {text : Text} :
    type.sourceName = .ok text ↔ type.sourceText false = .ok text :=
  mapError_eq_ok_iff

theorem JavaType.sourceName_eq_error_iff {type : JavaType} {failure : UnnameableType} :
    type.sourceName = .error failure ↔
      failure.type = type ∧ type.sourceText false = .error failure.cause := by
  rw [JavaType.sourceName, mapError_eq_error_iff]
  constructor
  · rintro ⟨cause, found, rfl⟩
    exact ⟨rfl, found⟩
  · rintro ⟨rfl, found⟩
    exact ⟨failure.cause, found, rfl⟩

theorem JavaType.exists_sourceText_iff (type : JavaType) :
    (∃ text, type.sourceText false = .ok text) ↔ ∀ part ∈ type.parts, part.obstacle? = none := by
  rw [← cause?_eq_none_iff, type.cause?_sourceText false, List.findSome?_eq_none_iff,
    JavaType.parts]

end Causes

/-- A type has a source name exactly if none of its parts is a type variable or a local class and
every wildcard among them is an argument. Otherwise the failure names the whole type, and its cause
is that of the first part, in the order of writing, that stands in the way. -/
theorem JavaType.sourceName_stops_at_first_obstacle (type : JavaType) :
    ((∃ text, type.sourceName = .ok text) ↔
        ∀ part ∈ type.parts,
          (∀ name, part.type ≠ .typeVariable name) ∧
            (∀ name anonymous, part.type ≠ .localClass name anonymous) ∧
            ∀ bound, part.type = .wildcard bound → part.isArgument = true) ∧
      ∀ failure, type.sourceName = .error failure ↔
        failure.type = type ∧
          ∃ before part later, type.parts = before ++ part :: later ∧
            part.obstacle? = some failure.cause ∧
            ∀ earlier ∈ before, earlier.obstacle? = none := by
  have causes : cause? (type.sourceText false) = type.parts.findSome? Part.obstacle? :=
    type.cause?_sourceText false
  constructor
  · simp only [JavaType.sourceName_eq_ok_iff, ← Part.obstacle?_eq_none_iff]
    rw [← cause?_eq_none_iff, causes, List.findSome?_eq_none_iff]
  · intro failure
    rw [JavaType.sourceName_eq_error_iff, ← cause?_eq_some_iff, causes, List.findSome?_eq_some_iff]

end Injector
