import Injector.Settings
import Injector.Toml.Document
/-!
Settings from a TOML document. A field that is absent takes its default; what settings have no use
for is left aside, but must be well formed.
-/
namespace Injector.Settings

inductive LoadFailure where
  /-- The document is not well formed, or a field is not of its kind. -/
  | unreadable
  | unfit (fault : SettingsFault)

def textOfNode? : Toml.Node → Option Text
  | .value (.string value) => some value
  | _ => none

def textsOfNode? : Toml.Node → Option (List Text)
  | .value (.array items) => items.mapM fun item => textOfNode? (.value item)
  | _ => none

/-- A value that is an integer from 0 to 2⁶⁴ - 1. -/
def sizeOfNode? : Toml.Node → Option UInt64
  | .value (.integer value) =>
      if 0 ≤ value ∧ value < UInt64.size then some (.ofNat value.toNat) else none
  | _ => none

/-- The field of a table, or a default if the table has none. -/
def fieldOr {α : Type} (fallback : α) (read : Toml.Node → Option α) (name : Text)
    (table : Toml.Table) : Option α :=
  match table.get? name with
  | none => some fallback
  | some node => read node

def ofTable? (table : Toml.Table) : Option Settings := do
  return ⟨← fieldOr default.providerTypes textsOfNode? "provider_types".toList table,
    ← fieldOr default.indentSize sizeOfNode? "indent_size".toList table,
    ← fieldOr default.nameStart textOfNode? "getter_prefix".toList table⟩

def load (document : Text) : Except LoadFailure Settings :=
  match (Toml.document? document).bind ofTable? with
  | none => .error .unreadable
  | some settings =>
      match settings.validate with
      | .error fault => .error (.unfit fault)
      | .ok () => .ok settings

/-- Settings that are loaded from a document have been looked at. -/
theorem validate_of_load {document : Text} {settings : Settings}
    (h : load document = .ok settings) :
    settings.validate = .ok () := by
  rw [load] at h
  split at h
  next => cases h
  next loaded _ =>
    split at h
    next => cases h
    next fit =>
      cases h
      exact fit

end Injector.Settings
